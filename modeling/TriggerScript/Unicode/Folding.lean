import TriggerScript.Unicode.Runs

/-!
# Folding of case

Characters that differ in case only have one common representative, their folded form.
Folding maps one character to one character.
-/

namespace TriggerScript
namespace Unicode
namespace Folding

/-- The characters with another folded form, in runs: how far a run starts after the one
before, how many characters it has, how far they are apart, and how far ahead of them
their folded forms are, doubled if it is not negative. -/
def runs : List String :=
    ["Y1Q1Y0ZK11XmEBN1Y0O71Y0X8O22XI3227822HN22XE11dH1322611mN211j41222411iS1112221iQ2",
     "112311aU111iK111iM1112211iQ111iU211j6111j21112311Ypa2111j6111jA211jC1322611jK111",
     "2211jK3112211jK1112221jI2222411jM11124112811411122114111221141922J922J1141222411",
     "c1111ZF1K22X811e32922O11rYM1112211g5111rYG3112211i5111aA111aE1522U11YosEd111d8XB",
     "2226112911d8711YC231YA411a0221ZU3H1Y0I91Y0V112D11G111XR111XH411T111XB2C22O11ZB11",
     "1YV311ZN111ZV2112211D1112331e33G1b0GX01Y0YGH22XAR22XM11U1722FXG22Z1X61Z0YxFX61kc",
     "0X711kc0611kc0sJYG1Yhz0YG61GYaG11iaR111iaP111ia7121ia3211ia5111iZN111iY7111Yay62",
     "1116XB1bxVXD31bxVg3YB22aR11ZJ311kxT2XG22Z881FG61FG81FG81FG61FH42FF81FX081FG81FG8",
     "1FG21F221aJ211H211kW9A41bB411H711ka5521F221c7911kZ5521F221cV211DC21dV221dR211HfA",
     "11krP411mhT111maB711XOXEG1X0X3112vJQ1XKXwAXG1Z0Z0112211q+D111dkB111q*D3322611rXN",
     "111q+P111rXT111rXR21123112921rZT2XI22ZB2227112*gEN22Y0E22b2722GV22Y7222411YbW715",
     "22D112211YooF32226A22K11Yoq7111YoqT111YoqL111Yoq1111Yoq7211Yon3111YooJ111Yon9111",
     "Xw01822G11YV111Yoq5111YbZF12226111311262225111Q112quH111XWRQ1Y0XcVX81YGbGX41YGc0",
     "B1YECF1YEG71YE821YEXtCXJ1a0dGM1XVYvGX01Y0rj0X01Y0*s0X21Y4"]

/-- The way from a character to its folded form. -/
def shift
    (n : Nat) : Int :=
  if n % 2 = 0 then (n / 2 : Nat) else -((n + 1) / 2 : Nat)

/-- The characters with another folded form, and these forms. -/
def pairsFrom : Nat → List Nat → List (Nat × Nat)
  | start, gap :: count :: apart :: code :: rest =>
      let first := start + gap
      (List.range count).map (fun i =>
          let c := first + i * apart
          (c, (c + shift code : Int).toNat))
        ++ pairsFrom first rest
  | _, _ => []

/-- All characters with another folded form, and these forms. -/
def pairs : List (Nat × Nat) :=
  pairsFrom 0 (numbers runs)

end Folding

namespace CodePointSet

/-- The set with all characters that differ from its members in case only. -/
def foldCase
    (s : CodePointSet) : CodePointSet :=
  let forms := (Folding.pairs.filter fun p => s.contains p.1).map Prod.snd
  let folded := s.union (ofIntervals (forms.map fun n => ⟨n, n⟩))
  let others := (Folding.pairs.filter fun p => folded.contains p.2).map Prod.fst
  folded.union (ofIntervals (others.map fun n => ⟨n, n⟩))

end CodePointSet

end Unicode
end TriggerScript
