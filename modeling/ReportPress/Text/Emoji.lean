import ReportPress.Text.Blank
import ReportPress.Text.Emoji.Names
import ReportPress.Text.LowerCase

/-!
Emoji by name. A name between colons stands for an emoji, without regard to case; behind a dash it
may say whether the emoji is to be shown as text or as a picture.
-/

namespace ReportPress.Text.Emoji

/-- Words taken two by two. -/
def pairs : List (List Char) → List (List Char × List Char)
  | first :: second :: rest => (first, second) :: pairs rest
  | _ => []

/-- The names of emoji that can be given a skin tone, with what they stand for. -/
def people : List (List Char × List Char) := pairs (words personNames.toList)

/-- The names of the other emoji, with what they stand for. -/
def others : List (List Char × List Char) := pairs (words otherNames.toList)

/-- The ends of names that give a skin tone, and the tones. -/
def tones : List (String × Char) :=
  [("_light_skin_tone", '🏻'), ("_medium-light_skin_tone", '🏼'), ("_medium_skin_tone", '🏽'),
    ("_medium-dark_skin_tone", '🏾'), ("_dark_skin_tone", '🏿')]

/-- The text in front of an end that it has. -/
def dropEnd? (ending cs : List Char) : Option (List Char) :=
  if ending.isSuffixOf cs then some (cs.take (cs.length - ending.length)) else none

/-- An emoji with a skin tone, which stands behind its first character, in place of the selector of
the emoji form. -/
def withTone (tone : Char) : List Char → List Char
  | c :: '\uFE0F' :: rest => c :: tone :: rest
  | c :: rest => c :: tone :: rest
  | [] => []

/-- The emoji of a name in small letters. -/
def ofName? (name : List Char) : Option (List Char) :=
  (people.lookup name).or ((others.lookup name).or
    (tones.findSome? fun (ending, tone) =>
      ((dropEnd? ending.toList name).bind fun base => people.lookup base).map (withTone tone)))

/-- The ends of names that choose a form, and the selectors of the forms. -/
def forms : List (String × Char) := [("-text", '\uFE0E'), ("-emoji", '\uFE0F')]

/-- What a code between two colons stands for. -/
def ofCode? (code : List Char) : Option (List Char) :=
  let named := fun name => ofName? (lowerFrom [] name)
  match forms.findSome? fun (ending, form) => (dropEnd? ending.toList code).map (·, form) with
  | some (name, form) => (named name).map (· ++ [form])
  | none => named code

/-- The text with its codes replaced. A code holds no blank; one that names nothing stays. -/
def replaceCodes : List Char → List Char
  | [] => []
  | c :: rest =>
    let code := rest.takeWhile fun x => x != ':' && !isBlank x
    match _h : rest.drop code.length with
    | ':' :: left =>
      if c = ':' then (ofCode? code).getD (':' :: code ++ [':']) ++ replaceCodes left
      else c :: replaceCodes rest
    | _ => c :: replaceCodes rest
termination_by cs => cs.length
decreasing_by
  · have := congrArg List.length _h
    simp only [List.length_drop, List.length_cons] at this ⊢
    omega
  all_goals simp

/-- There are no codes in front of the first colon. -/
theorem replaceCodes_append {front : List Char} (h : ':' ∉ front) (rest : List Char) :
    replaceCodes (front ++ rest) = front ++ replaceCodes rest := by
  induction front with
  | nil => rfl
  | cons c front ih =>
    simp only [List.mem_cons, not_or] at h
    rw [List.cons_append, replaceCodes]
    simp only [ih h.2]
    split
    · rw [if_neg (Ne.symm h.1), List.cons_append]
    · rfl

end ReportPress.Text.Emoji
