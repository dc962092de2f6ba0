import RowQuery.Text.Width.Emoji

/-!
The width of a text in terminal columns. Characters that are drawn as one are measured as one: a
letter that joins the one behind it, an emoji with its selector, its skin tone or with other emoji
joined to it. A text is measured from its end, each character by what stands behind it.
-/

namespace RowQuery.Text

/-- A selector: how the character before it is drawn. -/
inductive Selector where
  | emoji
  | text
  | wide
deriving DecidableEq

/-- The selector that the character is. -/
def Selector.of? : Char → Option Selector
  | '\uFE0F' => some .emoji
  | '\uFE0E' => some .text
  | '\uFE01' => some .wide
  | _ => none

/-- What stands behind a character, as far as it can be drawn as one with it. -/
inductive Tail where
  | other
  | letter (t : LetterTail)
  | emoji (t : EmojiTail)

namespace Tail

/-- What the character is to the one before it. -/
def of (c : Char) : Tail :=
  match JoiningLetter.of? c with
  | some l => letter ⟨l, false⟩
  | none => (EmojiTail.of? c).elim other emoji

/-- The columns of a character that is drawn as one with what stands behind it. -/
def before? (c : Char) : Tail → Option (Int × Tail)
  | other => none
  | letter t => (t.before? c).map fun (columns, t) => (columns, t.elim other letter)
  | emoji t => (t.before? c).map fun (columns, t) => (columns, emoji t)

/-- What is still joined to a character before a selector. -/
def behind (s : Selector) : Tail → Tail
  | letter t => if t.letter.seesThroughSelector then letter t else other
  | emoji t => if s = .emoji && (t = .joiner || t = .joinedKeycap) then emoji t else other
  | other => other

/-- What is still joined to a character where a selector between them selects nothing. -/
def withoutEmoji : Tail → Tail
  | emoji _ => other
  | t => t

end Tail

/-- The quotation marks that can be drawn wide. -/
def curvedQuotes : CodeSet := ⟨[0x2018, 0x201A, 0x201C, 0x201E]⟩

/-- What stands behind a character: a selector or none, and then the rest. -/
structure Follower where
  selector : Option Selector
  tail : Tail

namespace Follower

/-- What stands behind a character that no selector follows. -/
def ofTail (t : Tail) : Follower := ⟨none, t⟩

/-- The columns of a character that the selector behind it selects. -/
def selected? (f : Follower) (c : Char) : Option (Int × Follower) :=
  match f.selector with
  | none => none
  | some .emoji =>
    if emojiBases.contains c then
      let columns := match f.tail with
        | .emoji _ => 0
        | _ => 2
      some (columns, ofTail (.emoji .emoji))
    else none
  | some .text => if textBases.contains c then some (1, ofTail .other) else none
  | some .wide => if curvedQuotes.contains c then some (2, ofTail .other) else none

/-- What stands behind a character that the selector does not select. -/
def unselected (f : Follower) : Tail := if f.selector.isNone then f.tail else f.tail.withoutEmoji

/-- The columns of a character by what follows it, and what follows the one before it. -/
def addColumns (f : Follower) (c : Char) : Int × Follower :=
  match f.selected? c with
  | some found => found
  | none =>
    if c.toNat ≤ 0xA0 then (1, ofTail .other)
    else
      match Selector.of? c with
      | some s => (0, ⟨some s, f.unselected.behind s⟩)
      | none =>
        let (columns, tail) := (f.unselected.before? c).getD (charWidth c, .of c)
        (columns, ofTail tail)

end Follower

/-- Measures a character and what follows it. -/
def addWidth (c : Char) (rest : Int × Follower) : Int × Follower :=
  let (columns, follower) := rest.2.addColumns c
  (columns + rest.1, follower)

/-- The number of columns a text takes. -/
def width (cs : List Char) : Nat := (cs.foldr addWidth (0, .ofTail .other)).1.toNat

example : width ['\u0644', '\u0627'] = 1 ∧ width ['\u0627', '\u0644'] = 2 := by decide +kernel

example : width ['\u2764'] = 1 ∧ width ['\u2764', '\uFE0F'] = 2 := by decide +kernel

end RowQuery.Text
