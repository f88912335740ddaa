import IdentityBillpay.Js.StringToNumber

/-!
# Text — upper case, white space and patterns that ignore case

* `toUpperCase`, `underscored` — the string methods that normalise a name;
* `stripWord`, `testWord` — the pattern `/word/i`;
* `stripWord_eq_some_iff` — a word at the start of a text;
* `testWords` — the pattern `/first.?second/i`.
-/

namespace IdentityBillpay
namespace Js

/-- The letters beyond ASCII whose upper case has letters of ASCII, or is more than one letter. -/
def SPECIAL_CASING : List (Nat × List Nat) :=
  [(0xDF, [0x53, 0x53]), (0x131, [0x49]), (0x149, [0x2BC, 0x4E]), (0x17F, [0x53]),
    (0x1F0, [0x4A, 0x30C]), (0x390, [0x399, 0x308, 0x301]), (0x3B0, [0x3A5, 0x308, 0x301]),
    (0x587, [0x535, 0x552]), (0x1E96, [0x48, 0x331]), (0x1E97, [0x54, 0x308]),
    (0x1E98, [0x57, 0x30A]), (0x1E99, [0x59, 0x30A]), (0x1E9A, [0x41, 0x2BE]),
    (0x1F50, [0x3A5, 0x313]), (0x1F52, [0x3A5, 0x313, 0x300]), (0x1F54, [0x3A5, 0x313, 0x301]),
    (0x1F56, [0x3A5, 0x313, 0x342]), (0x1F80, [0x1F08, 0x399]), (0x1F81, [0x1F09, 0x399]),
    (0x1F82, [0x1F0A, 0x399]), (0x1F83, [0x1F0B, 0x399]), (0x1F84, [0x1F0C, 0x399]),
    (0x1F85, [0x1F0D, 0x399]), (0x1F86, [0x1F0E, 0x399]), (0x1F87, [0x1F0F, 0x399]),
    (0x1F88, [0x1F08, 0x399]), (0x1F89, [0x1F09, 0x399]), (0x1F8A, [0x1F0A, 0x399]),
    (0x1F8B, [0x1F0B, 0x399]), (0x1F8C, [0x1F0C, 0x399]), (0x1F8D, [0x1F0D, 0x399]),
    (0x1F8E, [0x1F0E, 0x399]), (0x1F8F, [0x1F0F, 0x399]), (0x1F90, [0x1F28, 0x399]),
    (0x1F91, [0x1F29, 0x399]), (0x1F92, [0x1F2A, 0x399]), (0x1F93, [0x1F2B, 0x399]),
    (0x1F94, [0x1F2C, 0x399]), (0x1F95, [0x1F2D, 0x399]), (0x1F96, [0x1F2E, 0x399]),
    (0x1F97, [0x1F2F, 0x399]), (0x1F98, [0x1F28, 0x399]), (0x1F99, [0x1F29, 0x399]),
    (0x1F9A, [0x1F2A, 0x399]), (0x1F9B, [0x1F2B, 0x399]), (0x1F9C, [0x1F2C, 0x399]),
    (0x1F9D, [0x1F2D, 0x399]), (0x1F9E, [0x1F2E, 0x399]), (0x1F9F, [0x1F2F, 0x399]),
    (0x1FA0, [0x1F68, 0x399]), (0x1FA1, [0x1F69, 0x399]), (0x1FA2, [0x1F6A, 0x399]),
    (0x1FA3, [0x1F6B, 0x399]), (0x1FA4, [0x1F6C, 0x399]), (0x1FA5, [0x1F6D, 0x399]),
    (0x1FA6, [0x1F6E, 0x399]), (0x1FA7, [0x1F6F, 0x399]), (0x1FA8, [0x1F68, 0x399]),
    (0x1FA9, [0x1F69, 0x399]), (0x1FAA, [0x1F6A, 0x399]), (0x1FAB, [0x1F6B, 0x399]),
    (0x1FAC, [0x1F6C, 0x399]), (0x1FAD, [0x1F6D, 0x399]), (0x1FAE, [0x1F6E, 0x399]),
    (0x1FAF, [0x1F6F, 0x399]), (0x1FB2, [0x1FBA, 0x399]), (0x1FB3, [0x391, 0x399]),
    (0x1FB4, [0x386, 0x399]), (0x1FB6, [0x391, 0x342]), (0x1FB7, [0x391, 0x342, 0x399]),
    (0x1FBC, [0x391, 0x399]), (0x1FC2, [0x1FCA, 0x399]), (0x1FC3, [0x397, 0x399]),
    (0x1FC4, [0x389, 0x399]), (0x1FC6, [0x397, 0x342]), (0x1FC7, [0x397, 0x342, 0x399]),
    (0x1FCC, [0x397, 0x399]), (0x1FD2, [0x399, 0x308, 0x300]), (0x1FD3, [0x399, 0x308, 0x301]),
    (0x1FD6, [0x399, 0x342]), (0x1FD7, [0x399, 0x308, 0x342]), (0x1FE2, [0x3A5, 0x308, 0x300]),
    (0x1FE3, [0x3A5, 0x308, 0x301]), (0x1FE4, [0x3A1, 0x313]), (0x1FE6, [0x3A5, 0x342]),
    (0x1FE7, [0x3A5, 0x308, 0x342]), (0x1FF2, [0x1FFA, 0x399]), (0x1FF3, [0x3A9, 0x399]),
    (0x1FF4, [0x38F, 0x399]), (0x1FF6, [0x3A9, 0x342]), (0x1FF7, [0x3A9, 0x342, 0x399]),
    (0x1FFC, [0x3A9, 0x399]), (0xFB00, [0x46, 0x46]), (0xFB01, [0x46, 0x49]),
    (0xFB02, [0x46, 0x4C]), (0xFB03, [0x46, 0x46, 0x49]), (0xFB04, [0x46, 0x46, 0x4C]),
    (0xFB05, [0x53, 0x54]), (0xFB06, [0x53, 0x54]), (0xFB13, [0x544, 0x546]),
    (0xFB14, [0x544, 0x535]), (0xFB15, [0x544, 0x53B]), (0xFB16, [0x54E, 0x546]),
    (0xFB17, [0x544, 0x53D])]

/-- The upper case of one character. A letter beyond ASCII whose upper case is a single letter beyond
ASCII stands for that letter. -/
def upperCase (c : Char) : List Char :=
  if c.toNat < 0x80 then [c.toUpper]
  else
    match SPECIAL_CASING.lookup c.toNat with
    | some codes => codes.map Char.ofNat
    | none => [c]

def toUpperCase (cs : List Char) : List Char :=
  cs.flatMap upperCase

/-- `replace(/\s+/g, '_')`; `inRun` tells that the characters just before were white space. -/
def underscored (inRun : Bool) : List Char → List Char
  | [] => []
  | c :: cs =>
      if isWhiteSpace c then
        if inRun then underscored true cs else '_' :: underscored true cs
      else c :: underscored false cs

/-- What follows `word` at the start of the text, in letters of either case. `word` is in upper case;
a letter beyond ASCII matches none of its letters. -/
def stripWord : List Char → List Char → Option (List Char)
  | [], cs => some cs
  | _ :: _, [] => none
  | p :: ps, c :: cs => if c.toUpper = p then stripWord ps cs else none

/-- `/word/i.test(text)`. -/
def testWord (word : String) (text : List Char) : Bool :=
  text.tails.any fun rest => (stripWord word.toList rest).isSome

/-- The class `.`: one code unit, and no line terminator. -/
def isDot (c : Char) : Bool :=
  c.toNat < 0x10000 && !([0xA, 0xD, 0x2028, 0x2029].contains c.toNat)

/-- `/first.?second/i.test(text)`. -/
def testWords (first second : String) (text : List Char) : Bool :=
  text.tails.any fun start =>
    match stripWord first.toList start with
    | none => false
    | some rest =>
        (stripWord second.toList rest).isSome ||
          match rest with
          | [] => false
          | c :: cs => isDot c && (stripWord second.toList cs).isSome

example : toUpperCase "bank maﬁa".toList = "BANK MAFIA".toList ∧
    underscored false "BANK \t ADMIN".toList = "BANK_ADMIN".toList ∧
    testWords "SUPER" "ADMIN" "my Super-admin".toList = true ∧
    testWords "SUPER" "ADMIN" "SUPER--ADMIN".toList = false := by
  decide

/-- A word is found just where the text starts with its letters, in either case. -/
theorem stripWord_eq_some_iff {w cs rest : List Char} :
    stripWord w cs = some rest ↔ ∃ word, cs = word ++ rest ∧ word.map Char.toUpper = w := by
  induction w generalizing cs with
  | nil =>
      simp only [stripWord, Option.some.injEq, List.map_eq_nil_iff]
      exact ⟨fun h => ⟨[], h, rfl⟩, fun ⟨word, h, hnil⟩ => by rw [h, hnil, List.nil_append]⟩
  | cons p ps ih =>
      constructor
      · intro h
        cases cs with
        | nil => cases h
        | cons c cs =>
            unfold stripWord at h
            split at h
            · next hp =>
                rcases ih.1 h with ⟨word, hcs, hword⟩
                exact ⟨c :: word, by rw [hcs, List.cons_append], by rw [List.map_cons, hp, hword]⟩
            · cases h
      · rintro ⟨word, rfl, hword⟩
        cases word with
        | nil => cases hword
        | cons c word =>
            rcases List.cons_eq_cons.1 hword with ⟨hp, hps⟩
            rw [List.cons_append, stripWord, if_pos hp]
            exact ih.2 ⟨word, rfl, hps⟩

end Js
end IdentityBillpay
