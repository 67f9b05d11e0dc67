/-!
# Characters beyond ASCII in ASCII

The bootstring code for labels of names. The ASCII characters of a text stand first, with a hyphen
behind them if there are any. The other characters follow by rising code point: each is a number that
says how far the decoder counts on, through all places of the text and all code points, before it puts
the next character in.

1. A number is written with the least digit first, in a base that depends on the place of the digit and
   on how large the numbers before it were.
2. `decode?` yields nothing for a digit outside the alphabet, a number without its last digit, and a
   code point that is no character.
-/
namespace HostSurvey.Text.Punycode

/-! ## Digits -/

/-- The digit of a value below 36: letters first, then numerals. -/
def digit (value : Nat) : Char :=
  if value < 26 then Char.ofNat (97 + value) else Char.ofNat (22 + value)

/-- The value of a digit, in either case. -/
def value? (c : Char) : Option Nat :=
  if 'a' ≤ c ∧ c ≤ 'z' then some (c.toNat - 97)
  else if 'A' ≤ c ∧ c ≤ 'Z' then some (c.toNat - 65)
  else if '0' ≤ c ∧ c ≤ '9' then some (c.toNat - 22)
  else none

/-- From which value on a digit is not the last of its number. `place` counts the digits, 36 for each. -/
def threshold (bias place : Nat) : Nat :=
  if place ≤ bias then 1 else if bias + 26 ≤ place then 26 else place - bias

theorem threshold_pos (bias place : Nat) : 0 < threshold bias place := by
  unfold threshold; split
  · omega
  · split <;> omega

/-- Halvings by 35 until the step is small; each counts 36. -/
def settle (step count : Nat) : Nat × Nat :=
  if 455 < step then settle (step / 35) (count + 36) else (step, count)
termination_by step
decreasing_by omega

/-- The bias for the next number, from the one just written, the number of characters in place and
whether it was the first. -/
def adapt (step points : Nat) (first : Bool) : Nat :=
  let step := if first then step / 700 else step / 2
  let (step, count) := settle (step + step / points) 0
  count + 36 * step / (step + 38)

/-! ## Writing -/

/-- The digits of a number. -/
def digits (bias place n : Nat) : List Char :=
  let t := threshold bias place
  if n < t then [digit n]
  else digit (t + (n - t) % (36 - t)) :: digits bias (place + 36) ((n - t) / (36 - t))
termination_by n
decreasing_by
  have h := threshold_pos bias place
  have : (n - threshold bias place) / (36 - threshold bias place) ≤ n - threshold bias place :=
    Nat.div_le_self _ _
  omega

/-- A text that is being written. -/
structure Writing where
  /-- The digits so far, the last one first. -/
  written : List Char
  /-- How far the decoder has to count on. -/
  step : Nat
  /-- The bias of the next number. -/
  bias : Nat
  /-- How many characters are in place. -/
  placed : Nat

/-- Passes one character of the text while the characters with code point `point` are put in. -/
def Writing.pass (basic point : Nat) (w : Writing) (c : Char) : Writing :=
  if c.toNat < point then { w with step := w.step + 1 }
  else if c.toNat = point then
    { written := (digits w.bias 36 w.step).reverse ++ w.written, step := 0,
      bias := adapt w.step (w.placed + 1) (w.placed == basic), placed := w.placed + 1 }
  else w

/-- Puts in the characters of each code point in turn; `start` is the first one not yet passed. -/
def Writing.run (basic : Nat) (text : List Char) : List Nat → Nat → Writing → Writing
  | [], _, w => w
  | point :: points, start, w =>
    let w := { w with step := w.step + (point - start) * (w.placed + 1) }
    let w := text.foldl (Writing.pass basic point) w
    run basic text points (point + 1) { w with step := w.step + 1 }

/-- The code of a text. -/
def encode (text : List Char) : List Char :=
  let basic := text.filter (·.toNat < 128)
  let points := ((text.map Char.toNat).filter (128 ≤ ·)).eraseDups.mergeSort
  let w := Writing.run basic.length text points 128 ⟨[], 0, 72, basic.length⟩
  basic ++ (if basic.isEmpty then [] else ['-']) ++ w.written.reverse

/-! ## Reading -/

/-- Reads a number onto `n`; the digit at hand weighs `weight`. -/
def number? (bias place weight n : Nat) : List Char → Option (Nat × List Char)
  | [] => none
  | c :: rest => do
    let d ← value? c
    let t := threshold bias place
    if d < t then some (n + d * weight, rest)
    else number? bias (place + 36) (weight * (36 - t)) (n + d * weight) rest

/-- Whether a number is the code point of a character. -/
def isCharacter (n : Nat) : Bool :=
  n < 0xd800 || (0xdfff < n && n < 0x110000)

/-- Puts the characters that the numbers tell of into `text`. -/
def insertAll (bias point index : Nat) (text : List Char) : List Char → Option (List Char)
  | [] => some text
  | c :: code =>
    match number? bias 36 1 index (c :: code) with
    | none => none
    | some (n, rest) =>
      let room := text.length + 1
      let point := point + n / room
      if _h : rest.length ≤ code.length then
        if isCharacter point then
          insertAll (adapt (n - index) room (index == 0)) point (n % room + 1)
            (text.insertIdx (n % room) (Char.ofNat point)) rest
        else none
      else none
termination_by code => code.length

/-- The text that a code writes. -/
def decode? (code : List Char) : Option (List Char) :=
  let tail := (code.reverse.takeWhile (· ≠ '-')).reverse
  let basic := code.take (code.length - tail.length - 1)
  if basic.any (128 ≤ ·.toNat) then none else insertAll 72 128 0 basic tail

end HostSurvey.Text.Punycode
