import Marginalia.Command.Emoji
import Marginalia.Text

/-
  This file defines the markup in which texts are handed to the
  console: tags in square brackets give the style of a text, and
  a backslash before a tag takes it for text.

  Key definitions include:
    * `Markup.tag?`
    * `Markup.slashedTag?`
    * `Markup.escape`
    * `Markup.styled`
    * `Markup.stretches`
    * `Markup.text`
-/

namespace Marginalia

namespace Markup

------------------------------------------------------------
-- Tags
------------------------------------------------------------

/- The characters that a tag starts with. -/
def opensTag
    (c : Char) : Bool :=
  c.isLower || c == '#' || c == '/' || c == '@'

/- The characters inside a tag, which has no brackets in it. -/
def isInner
    (c : Char) : Bool :=
  c != '[' && c != ']'

/- The tag that a text starts with, and what follows it. -/
def tag? : Text → Option (Text × Text)
  | '[' :: c :: rest =>
      if opensTag c then
        match rest.dropWhile isInner with
        | ']' :: following =>
            some ('[' :: c :: rest.takeWhile isInner ++ [']'], following)
        | _ => none
      else none
  | _ => none

/- What follows a tag is shorter than the text. -/
theorem length_of_tag?
    {text tag following : Text}
    (h : tag? text = some (tag, following)) :
    following.length < text.length := by
  unfold tag? at h
  split at h
  · rename_i c rest
    split at h
    · split at h
      · rename_i found hDrop
        simp only [Option.some.injEq, Prod.mk.injEq] at h
        obtain ⟨-, rfl⟩ := h
        have hSuffix := (List.dropWhile_suffix isInner : _ <:+ rest).length_le
        rw [hDrop] at hSuffix
        simp only [List.length_cons] at hSuffix ⊢
        omega
      · simp at h
    · simp at h
  · simp at h

/-
  The backslashes that a text starts with, the tag after them,
  and what follows it, if the text starts that way.
-/
def slashedTag?
    (text : Text) : Option (Nat × Text × Text) :=
  (tag? (text.dropWhile (· == '\\'))).map fun (tag, following) =>
    ((text.takeWhile (· == '\\')).length, tag, following)

/- What follows backslashes and a tag is shorter than the text. -/
theorem length_of_slashedTag?
    {text tag following : Text}
    {count : Nat}
    (h : slashedTag? text = some (count, tag, following)) :
    following.length < text.length := by
  unfold slashedTag? at h
  obtain ⟨⟨found, rest⟩, hTag, hEq⟩ := Option.map_eq_some_iff.mp h
  simp only [Prod.mk.injEq] at hEq
  obtain ⟨-, rfl, rfl⟩ := hEq
  have hShort := length_of_tag? hTag
  have hSuffix :=
    (List.dropWhile_suffix (· == '\\') : _ <:+ text).length_le
  omega

------------------------------------------------------------
-- Writing Markup
------------------------------------------------------------

/- A text in which every tag, and every backslash before one, is escaped. -/
def escapeTags
    (text : Text) : Text :=
  match _h : slashedTag? text with
  | some (count, tag, following) =>
      List.replicate (2 * count + 1) '\\' ++ tag ++
        escapeTags following
  | none =>
      match text with
      | [] => []
      | c :: rest => c :: escapeTags rest
  termination_by text.length
  decreasing_by
    · exact length_of_slashedTag? _h
    · simp

/-
  A text as markup. A backslash that stands alone at its end is
  doubled, since a tag may come after it.
-/
def escape
    (text : Text) : Text :=
  let escaped := escapeTags text
  match escaped.reverse with
  | '\\' :: '\\' :: _ => escaped
  | '\\' :: _ => escaped ++ ['\\']
  | _ => escaped

/- Markup in a style. -/
def styled
    (style : String)
    (markup : Text) : Text :=
  '[' :: style.toList ++ [']'] ++ markup ++
    '[' :: '/' :: style.toList ++ [']']

------------------------------------------------------------
-- The Text of Markup
------------------------------------------------------------

/-
  The stretches of text in markup, which tags separate. Of two
  backslashes before a tag one is left, and a further one before
  it takes the tag for text.
-/
def stretches
    (markup : Text) : List Text :=
  match _h : slashedTag? markup with
  | some (count, tag, following) =>
      [] :: List.replicate (count / 2) '\\' ::
        (if count % 2 = 1 then [tag] else []) ++ stretches following
  | none =>
      match markup with
      | [] => [[]]
      | c :: rest => Text.prepend [c] (stretches rest)
  termination_by markup.length
  decreasing_by
    · exact length_of_slashedTag? _h
    · simp

/- A text without the backslashes before brackets. -/
def unescapeBrackets : Text → Text
  | [] => []
  | '\\' :: '[' :: rest => '[' :: unescapeBrackets rest
  | c :: rest => c :: unescapeBrackets rest

/-
  The text of markup. Brackets that are part of no tag may also
  be escaped, and emoji may be asked for by their codes.
-/
def text
    (markup : Text) : Text :=
  (stretches markup).flatMap fun stretch =>
    Emoji.replace (unescapeBrackets stretch)

end Markup

end Marginalia
