import Codebook.Text.Lower

/-!
# Letters that differ only in case

Two letters are the same but for case if their lower-case forms are equal or related: a few
lower-case letters share their upper-case form, such as `s` and the long `s`. Characters are given
by their code points here.
-/

namespace Codebook.Text

/-- The characters beyond ASCII that another character is the upper-case or lower-case form of. -/
def changing : CharTable := .ofLengths "
b90:F1N1bC1bW1<1=2=21104c41A6J111011311011142011207020113550:1dR0Z32132106012101C1b23P141d08dQ1U:Vcm
HU10502Z22p<bY25bxF87Z22e9030@0cIdG201cM252U25271010101N2b81610321633254<5216gQ03160K0AO31sIb7bp:cH1
1117c=7331<U1050bbcBb1BKd2=2bA9>32241H1J5143K1tH0LbSrt46<4xEI6Ibb1bSc8S4ScL:1>16111:1>1611bn?b6=b6cp
YbCtcPbCbbkPbG"

/-- The character changes with case. -/
def changesCase (n : Nat) : Bool :=
  if n < 128 then (Char.ofNat n).isAlpha else changing.any fun r => r.1 ≤ n && n ≤ r.2

/-- Some character between two changes with case. -/
def changesCaseIn (low high : Nat) : Bool :=
  let meets := fun r : Nat × Nat => r.1 ≤ high && low ≤ r.2
  meets (65, 90) || meets (97, 122) || changing.any meets

/-- The lower-case form of a character; of the dotted capital I it is the plain letter. -/
def lowerCode (n : Nat) : Nat :=
  if n == 0x130 then 105
  else if n.isValidChar then (lowerChar (Char.ofNat n)).toNat
  else n

/-- The lower-case form of a character if only ASCII letters have one. -/
def lowerAscii (n : Nat) : Nat :=
  if 65 ≤ n && n ≤ 90 then n + 32 else n

/-- The characters whose lower-case form is the given one, itself apart. -/
def upperForms (n : Nat) : List Nat :=
  let ascii := if 97 ≤ n && n ≤ 122 then [n - 32] else []
  let dotted := if n == 105 then [0x130] else []
  let others := lowerRuns.toList.filterMap fun r =>
    let c := Int.toNat (n - r.2.2.2)
    if r.1 ≤ c && c ≤ r.2.1 && (c - r.1) % r.2.2.1 == 0 then some c else none
  ascii ++ dotted ++ others

/-- The lower-case letters that share their upper-case form, class by class. -/
def relatives : List (List Nat) := [
  [0x69, 0x131], [0x73, 0x17f], [0xb5, 0x3bc], [0x345, 0x3b9, 0x1fbe], [0x390, 0x1fd3],
  [0x3b0, 0x1fe3], [0x3b2, 0x3d0], [0x3b5, 0x3f5], [0x3b8, 0x3d1], [0x3ba, 0x3f0],
  [0x3c0, 0x3d6], [0x3c1, 0x3f1], [0x3c2, 0x3c3], [0x3c6, 0x3d5], [0x432, 0x1c80],
  [0x434, 0x1c81], [0x43e, 0x1c82], [0x441, 0x1c83], [0x442, 0x1c84, 0x1c85], [0x44a, 0x1c86],
  [0x463, 0x1c87], [0x1c88, 0xa64b], [0x1e61, 0x1e9b], [0xfb05, 0xfb06]]

/-- A lower-case letter and those related to it. -/
def related (n : Nat) : List Nat :=
  (relatives.find? (·.contains n)).getD [n]

end Codebook.Text
