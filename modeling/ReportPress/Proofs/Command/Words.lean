import ReportPress.Command
import ReportPress.Proofs.Text.Whole

/-!
What the words of a command line come to. An option that takes a value takes the next word for it,
whatever this is, and a path with a slash is never the start of another option with its value. Main
statement: `ofWords?_renderWords`.
-/

namespace ReportPress.Command

/-- The options of the command that renders an artifact. -/
def renderOptions : List CommandOption :=
  [⟨"schema-name", none, true⟩, ⟨"output", some 'o', true⟩, ⟨"input-tokens", none, true⟩,
    ⟨"output-tokens", none, true⟩]

/-- The options and values behind the path of an artifact that is rendered to a file. -/
def renderValues (schemaName output : String) (input tokens : Nat) : List String :=
  ["--schema-name", schemaName, "--input-tokens", input.repr, "--output-tokens", tokens.repr, "-o",
    output]

/-- The words that render an artifact to a file. -/
def renderWords (artifact schemaName output : String) (input tokens : Nat) : List String :=
  "render" :: artifact :: renderValues schemaName output input tokens

section

variable {options : List CommandOption} {option : CommandOption} {words words' : Words}
  {word value : String} {rest rest' : List String}

/-- A word is read as an option. -/
def isOption (word : String) : Bool := "-".toList.isPrefixOf word.toList && 1 < word.length

theorem exists_of_isOption (h : isOption word = true) : ∃ cs, word.toList = '-' :: cs := by
  obtain ⟨hPrefix, -⟩ := Bool.and_eq_true_iff.1 h
  obtain ⟨cs, hCs⟩ := List.isPrefixOf_iff_prefix.1 hPrefix
  exact ⟨cs, hCs.symm⟩

theorem splitEquals_of_notMem {cs : List Char} (h : '=' ∉ cs) : splitEquals cs = (cs, none) := by
  rw [splitEquals, Text.dropWhile_ne_of_notMem h]

theorem readOption_long {name : String} (hEquals : '=' ∉ name.toList)
    (hFind : options.find? (·.name == name) = some option) (hTakes : option.takesValue = true) :
    readOption options words ('-' :: '-' :: name.toList) (value :: rest) =
      some (words.withOption option.name value, rest) := by
  rw [readOption, splitEquals_of_notMem hEquals]
  simp only [String.ofList_toList, hFind, hTakes, if_true]

theorem readOption_letter {letter : Char} (hDash : letter ≠ '-')
    (hFind : options.find? (·.letter == some letter) = some option)
    (hTakes : option.takesValue = true) :
    readOption options words ['-', letter] (value :: rest) =
      some (words.withOption option.name value, rest) := by
  have hLetters : readLetters options words [letter] (value :: rest) =
      some (words.withOption option.name value, rest) := by
    simp only [readLetters, hFind, hTakes, if_true]
  rw [readOption]
  · exact hLetters
  · simp [hDash]

theorem eq_of_splitEquals {cs name : List Char} (h : splitEquals cs = (name, none)) :
    name = cs := by
  rw [splitEquals] at h
  split at h
  · cases h
  · exact (Prod.mk.inj h).1.symm

/-- No option has a slash in its name or for its letter. -/
def IsSlashFree (options : List CommandOption) : Prop :=
  ∀ option ∈ options, '/' ∉ option.name.toList ∧ option.letter ≠ some '/'

theorem readLetters_of_slash (hOptions : IsSlashFree options) {letters : List Char}
    (hSlash : '/' ∈ letters)
    (h : readLetters options words letters rest = some (words', rest')) :
    words'.others = words.others ∧ rest' = rest := by
  induction letters generalizing words with
  | nil => cases hSlash
  | cons letter letters ih =>
    rw [readLetters] at h
    cases hFind : options.find? (·.letter == some letter) with
    | none => simp [hFind] at h
    | some option =>
      have hLetter : letter ≠ '/' := by
        rintro rfl
        have hFound := List.find?_some hFind
        exact (hOptions option (List.mem_of_find?_eq_some hFind)).2 (eq_of_beq hFound)
      have hRest : '/' ∈ letters := (List.mem_cons.1 hSlash).resolve_left hLetter.symm
      simp only [hFind] at h
      split at h
      · split at h
        · cases h
        · cases hRest
        · obtain ⟨rfl, rfl⟩ := Prod.mk.inj (Option.some.inj h)
          exact ⟨rfl, rfl⟩
      · have hLetters := ih hRest h
        exact hLetters

/-- A word with a slash that is read as an option takes no further word. -/
theorem readOption_of_slash (hOptions : IsSlashFree options) {cs : List Char} (hSlash : '/' ∈ cs)
    (h : readOption options words ('-' :: cs) rest = some (words', rest')) :
    words'.others = words.others ∧ rest' = rest := by
  unfold readOption at h
  split at h
  · rename_i long hDashes
    obtain ⟨-, rfl⟩ := List.cons.inj hDashes
    have hLong : '/' ∈ long := by simpa using hSlash
    -- the slash is in the name, which no option has, or the option brings its own value
    cases hSplit : splitEquals long with
    | mk name value? =>
      rw [hSplit] at h
      cases value? with
      | none =>
        obtain rfl := eq_of_splitEquals hSplit
        have hFind : options.find? (·.name == String.ofList name) = none := by
          refine List.find?_eq_none.2 fun option hOption hName => (hOptions option hOption).1 ?_
          rw [eq_of_beq hName, String.toList_ofList]
          exact hLong
        simp [hFind] at h
      | some value =>
        dsimp only at h
        split at h
        · cases h
        · split at h
          · obtain ⟨rfl, rfl⟩ := Prod.mk.inj (Option.some.inj h)
            exact ⟨rfl, rfl⟩
          · cases h
        · cases ‹some value = none›
        · cases ‹some value = none›
  · rename_i hLetters
    obtain ⟨-, rfl⟩ := List.cons.inj hLetters
    exact readLetters_of_slash hOptions hSlash h
  · cases h

section

variable {optionsFirst : Bool} {fuel : Nat}

theorem readWords_nil : readWords options optionsFirst fuel words [] = some words := by
  cases fuel <;> simp [readWords]

theorem readWords_option (hWord : word ≠ "--") (hOption : isOption word = true) :
    readWords options optionsFirst (fuel + 1) words (word :: rest) =
      (readOption options words word.toList rest).bind fun read =>
        readWords options optionsFirst fuel read.1 read.2 := by
  have hDash : (word == "--") = false := beq_false_of_ne hWord
  rw [isOption] at hOption
  rw [readWords, hDash, hOption]
  cases readOption options words word.toList rest <;> rfl

theorem readWords_long (name : String) (hWord : word.toList = '-' :: '-' :: name.toList)
    (hName : name ≠ "") (hEquals : '=' ∉ name.toList)
    (hFind : options.find? (·.name == name) = some option) (hTakes : option.takesValue = true) :
    readWords options optionsFirst (fuel + 1) words (word :: value :: rest) =
      readWords options optionsFirst fuel (words.withOption option.name value) rest := by
  have hLong : word ≠ "--" := by
    rintro rfl
    exact hName (by simpa using hWord)
  have hOption : isOption word = true := by
    rw [isOption, ← String.length_toList, hWord]
    simp
  rw [readWords_option hLong hOption, hWord, readOption_long hEquals hFind hTakes]
  rfl

theorem readWords_letter {letter : Char} (hWord : word.toList = ['-', letter])
    (hDash : letter ≠ '-') (hFind : options.find? (·.letter == some letter) = some option)
    (hTakes : option.takesValue = true) :
    readWords options optionsFirst (fuel + 1) words (word :: value :: rest) =
      readWords options optionsFirst fuel (words.withOption option.name value) rest := by
  have hLong : word ≠ "--" := by
    rintro rfl
    exact hDash (by simpa using hWord.symm)
  have hOption : isOption word = true := by
    rw [isOption, ← String.length_toList, hWord]
    rfl
  rw [readWords_option hLong hOption, hWord, readOption_letter hDash hFind hTakes]
  rfl

/-- A word that is no option ends the options, or is set aside. -/
theorem readWords_word (hWord : word ≠ "--") (hOption : isOption word = false) :
    readWords options optionsFirst (fuel + 1) words (word :: rest) =
      if optionsFirst then some { words with others := words.others ++ word :: rest }
      else readWords options optionsFirst fuel (words.withOther word) rest := by
  have hDash : (word == "--") = false := beq_false_of_ne hWord
  rw [isOption] at hOption
  rw [readWords, hDash, hOption]
  rfl

end

end

section

variable {artifact schemaName output : String} {input tokens : Nat}

/-- The options of a rendering with the values behind them, the last one first. -/
def renderGiven (schemaName output : String) (input tokens : Nat) : List (String × String) :=
  [("output", output), ("output-tokens", tokens.repr), ("input-tokens", input.repr),
    ("schema-name", schemaName)]

theorem readWords_renderValues (fuel : Nat) (words : Words) :
    readWords renderOptions false (fuel + 4) words (renderValues schemaName output input tokens) =
      some ⟨renderGiven schemaName output input tokens ++ words.options, words.others⟩ := by
  unfold renderValues
  refine (readWords_long "schema-name" rfl (by decide) (by decide) rfl rfl).trans ?_
  refine (readWords_long "input-tokens" rfl (by decide) (by decide) rfl rfl).trans ?_
  refine (readWords_long "output-tokens" rfl (by decide) (by decide) rfl rfl).trans ?_
  refine (readWords_letter rfl (by decide) rfl rfl).trans ?_
  rw [readWords_nil]
  rfl

theorem isSlashFree_renderOptions : IsSlashFree renderOptions := by
  unfold IsSlashFree
  decide

/-- The path of an artifact is taken for itself, or for an option with its value. -/
theorem wordsOf_renderValues (hSlash : '/' ∈ artifact.toList) {words : Words}
    (h : wordsOf renderOptions false (artifact :: renderValues schemaName output input tokens) =
      some words) :
    words.others = [] ∨
      words = ⟨renderGiven schemaName output input tokens, [artifact]⟩ := by
  have hWord : artifact ≠ "--" := by
    rintro rfl
    exact absurd hSlash (by decide)
  have hLength : (artifact :: renderValues schemaName output input tokens).length = 4 + 4 + 1 := rfl
  rw [wordsOf, hLength] at h
  cases hOption : isOption artifact with
  | true =>
    -- the path is taken for an option, so all other words are too and no path is left
    left
    obtain ⟨cs, hCs⟩ := exists_of_isOption hOption
    have hBehind : '/' ∈ cs := by simpa [hCs] using hSlash
    rw [readWords_option hWord hOption, hCs] at h
    obtain ⟨⟨taken, rest⟩, hRead, hRest⟩ := Option.bind_eq_some_iff.1 h
    obtain ⟨hOthers, rfl⟩ := readOption_of_slash isSlashFree_renderOptions hBehind hRead
    rw [readWords_renderValues] at hRest
    rw [← Option.some.inj hRest]
    exact hOthers
  | false =>
    right
    rw [readWords_word hWord hOption, if_neg (by decide), readWords_renderValues] at h
    exact (Option.some.inj h).symm

theorem count?_repr (count : Nat) :
    count? count.repr = if Text.digitLimit < count.repr.length then none else some count := by
  rw [count?, Text.wholeNumeral_repr]
  by_cases hLong : Text.digitLimit < count.repr.length
  · rw [if_pos hLong, if_pos hLong]
  · rw [if_neg hLong, if_neg hLong]
    exact if_neg (by omega)

theorem eq_of_tokenCount? {words : Words} {name : String} {count found : Nat}
    (hValue : words.value? name = some count.repr) (h : tokenCount? words name = some found) :
    found = count := by
  simp only [tokenCount?, hValue, count?_repr] at h
  split at h
  · cases h
  · exact (Option.some.inj h).symm

theorem eq_of_path? {word : String} {path : Path} (h : path? word = some path) :
    path = .ofString word := by
  rw [path?] at h
  split at h
  · cases h
  · exact (Option.some.inj h).symm

/-- The words of a rendering give this rendering or no command at all. -/
theorem ofWords?_renderWords (hSlash : '/' ∈ artifact.toList) {command : Command}
    (h : ofWords? (renderWords artifact schemaName output input tokens) = some command) :
    command =
      .render (.ofString artifact) schemaName (some (.ofString output)) input tokens := by
  have hFirst : wordsOf commonOptions true (renderWords artifact schemaName output input tokens) =
      some ⟨[], renderWords artifact schemaName output input tokens⟩ :=
    (readWords_word (by decide) (by decide)).trans (if_pos rfl)
  rw [ofWords?, hFirst] at h
  change ofNameAndWords? "render" (artifact :: renderValues schemaName output input tokens) =
    some command at h
  rw [ofNameAndWords?, if_neg (by decide), if_neg (by decide), if_pos (by decide)] at h
  obtain ⟨words, hWords, h⟩ := Option.bind_eq_some_iff.1 h
  obtain ⟨found, hName, h⟩ := Option.bind_eq_some_iff.1 h
  obtain ⟨i, hInput, h⟩ := Option.bind_eq_some_iff.1 h
  obtain ⟨o, hOutput, h⟩ := Option.bind_eq_some_iff.1 h
  obtain ⟨target, hTarget, h⟩ := Option.bind_eq_some_iff.1 h
  rcases wordsOf_renderValues hSlash hWords with hNone | rfl
  · simp [hNone] at h
  · obtain rfl := Option.some.inj hName
    obtain rfl := eq_of_tokenCount? rfl hInput
    obtain rfl := eq_of_tokenCount? rfl hOutput
    obtain ⟨path, hPath, rfl⟩ := Option.map_eq_some_iff.1 hTarget
    obtain rfl := eq_of_path? hPath
    obtain ⟨found, hArtifact, h⟩ := Option.bind_eq_some_iff.1 h
    obtain rfl := eq_of_path? hArtifact
    exact (Option.some.inj h).symm

end

end ReportPress.Command
