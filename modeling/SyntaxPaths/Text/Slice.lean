/-!
# Slices by byte offset

Positions in a source line count the bytes of its UTF-8 form.  A slice between two
such positions exists only if both lie within the line and neither lies inside a
character.

## Main definitions

* `dropBytes`, `takeBytes` — a text without, or only with, its first `n` bytes
* `slice` — the characters between two byte offsets
* `byteLength` — the number of bytes of a text
-/

namespace SyntaxPaths.Text

/-- What is left of a text after its first `n` bytes, if a character starts or the
text ends there. -/
def dropBytes : (n : Nat) → List Char → Option (List Char)
  | 0, cs => some cs
  | _ + 1, [] => none
  | n + 1, c :: cs => if c.utf8Size ≤ n + 1 then dropBytes (n + 1 - c.utf8Size) cs else none

/-- The first `n` bytes of a text, if a character ends there. -/
def takeBytes : (n : Nat) → List Char → Option (List Char)
  | 0, _ => some []
  | _ + 1, [] => none
  | n + 1, c :: cs =>
    if c.utf8Size ≤ n + 1 then (takeBytes (n + 1 - c.utf8Size) cs).map (c :: ·) else none

/-- The characters from byte `start` up to byte `stop`. -/
def slice (start stop : Nat) (cs : List Char) : Option (List Char) :=
  if stop < start then none else (dropBytes start cs).bind (takeBytes (stop - start))

/-- The number of bytes of a text. -/
def byteLength : List Char → Nat
  | [] => 0
  | c :: cs => c.utf8Size + byteLength cs

@[simp] theorem dropBytes_zero (cs : List Char) : dropBytes 0 cs = some cs := by
  cases cs <;> simp [dropBytes]

@[simp] theorem takeBytes_zero (cs : List Char) : takeBytes 0 cs = some [] := by
  cases cs <;> simp [takeBytes]

@[simp] theorem byteLength_nil : byteLength [] = 0 := rfl

@[simp] theorem byteLength_cons (c : Char) (cs : List Char) :
    byteLength (c :: cs) = c.utf8Size + byteLength cs := rfl

end SyntaxPaths.Text
