/-
Module: ProtoCompanion.Proofs.ParsedParameters
Purpose: What is found among the options that a text is parsed into.
Main exports: splitOnce?_append_cons, Parameters.entries_parse_append,
  Parameters.getAll_parse_append, Parameters.get?_eq_head?, Parameters.contains_iff,
  Parameters.IsOption, Parameters.entries_parse_write, parameters_compose_and_read_back
-/
import ProtoCompanion.Generation.Parameters

/-!
Two texts of options that are joined by a comma are parsed into the options of the first, followed
by those of the second.  That options which are written out are read back is an induction on their
list, with this law as the step: what is left is a single option, which must not be cut inside its
key or its value, nor lose anything when it is trimmed.
-/

namespace ProtoCompanion

/-- What has no separator in it ends at the first separator after it. -/
theorem splitOnce?_append_cons {α : Type} [DecidableEq α] {separator : α} {xs : List α}
    (plain : separator ∉ xs) (ys : List α) :
    splitOnce? separator (xs ++ separator :: ys) = some (xs, ys) := by
  induction xs with
  | nil => simp [splitOnce?]
  | cons x xs ih =>
      obtain ⟨other, later⟩ := List.ne_and_not_mem_of_not_mem_cons plain
      simp [splitOnce?, Ne.symm other, ih later]

namespace Parameters

/-! ## Joined texts -/

/-- The options of two joined texts are those of the first and then those of the second. -/
theorem entries_parse_append (first second : String) :
    (parse (first ++ "," ++ second)).entries =
      (parse first).entries ++ (parse second).entries := by
  have pieces : Text.split ',' (first ++ "," ++ second) =
      Text.split ',' first ++ Text.split ',' second := by
    simp [Text.split, split_append_cons]
  simp only [parse, pieces, List.map_append, List.filter_append]

theorem getAll_parse_append (first second key : String) :
    (parse (first ++ "," ++ second)).getAll key =
      (parse first).getAll key ++ (parse second).getAll key := by
  simp only [getAll, entries_parse_append, List.filter_append, List.map_append]

/-! ## One key, three questions -/

/-- The value of a key is the first of its values. -/
theorem get?_eq_head? (parameters : Parameters) (key : String) :
    parameters.get? key = (parameters.getAll key).head? := by
  obtain ⟨entries⟩ := parameters
  simp only [get?, getAll]
  induction entries with
  | nil => rfl
  | cons entry rest ih =>
      obtain ⟨name, value⟩ := entry
      by_cases isKey : key = name
      · simp [isKey]
      · have other : (key == name) = false := by simpa using isKey
        simpa [List.lookup_cons, other, Ne.symm isKey] using ih

/-- A key was passed exactly if it has a value, which may be the empty one of a flag. -/
theorem contains_iff (parameters : Parameters) (key : String) :
    parameters.contains key = true ↔ parameters.getAll key ≠ [] := by
  simp [contains, getAll]

/-! ## Written options -/

/-- An option that can be written as `key=value`: the first equals sign is not in its key, and
neither of its parts has a comma in it or a blank at an end.  The value may be empty and may have
equals signs. -/
structure IsOption (key value : String) : Prop where
  key_ne_empty : key ≠ ""
  key_undivided : '=' ∉ key.toList
  key_one_piece : ',' ∉ key.toList
  value_one_piece : ',' ∉ value.toList
  key_trimmed : Text.trim key = key
  value_trimmed : Text.trim value = value

/-- The text in which options are passed. -/
def write (options : List (String × String)) : String :=
  ",".intercalate (options.map fun (key, value) => key ++ "=" ++ value)

theorem strip_of_trim_eq {s : String} (trimmed : Text.trim s = s) :
    strip isBlank s.toList = s.toList := by
  have sameChars := congrArg String.toList trimmed
  rwa [Text.trim, Text.toList_onChars] at sameChars

namespace IsOption

variable {key value : String}

/-- The text of an option begins with its key, and ends with its value or with the equals sign, so
it has no blanks at its ends. -/
theorem trim_text (option : IsOption key value) :
    Text.trim (key ++ "=" ++ value) = key ++ "=" ++ value := by
  have keyKept := strip_of_trim_eq option.key_trimmed
  have valueKept := strip_of_trim_eq option.value_trimmed
  have first : ∀ c ∈ (key.toList ++ '=' :: value.toList).head?, isBlank c = false := by
    intro c isFirst
    obtain ⟨k, rest, isKey⟩ := List.exists_cons_of_ne_nil
      (mt String.toList_eq_nil_iff.mp option.key_ne_empty)
    apply head?_strip c
    rw [keyKept]
    simpa [isKey] using isFirst
  have last : ∀ c ∈ (key.toList ++ '=' :: value.toList).getLast?, isBlank c = false := by
    intro c isLast
    rcases List.eq_nil_or_concat value.toList with none | ⟨init, v, isValue⟩
    · have isEquals : '=' = c := by simpa [none] using isLast
      rw [← isEquals]
      rfl
    · apply getLast?_stripEnd c
      change c ∈ (strip isBlank value.toList).getLast?
      rw [valueKept]
      simpa [isValue, List.getLast?_cons] using isLast
  apply String.toList_inj.mp
  simpa [Text.trim] using strip_eq_self first last

theorem parseEntry_text (option : IsOption key value) :
    parseEntry (key ++ "=" ++ value) = (key, value) := by
  have cut : Text.splitOnce? '=' (key ++ "=" ++ value) = some (key, value) := by
    simp [Text.splitOnce?, splitOnce?_append_cons option.key_undivided]
  simp only [parseEntry, cut, option.key_trimmed, option.value_trimmed]

/-- The text of an option is parsed into this option alone. -/
theorem entries_parse (option : IsOption key value) :
    (parse (key ++ "=" ++ value)).entries = [(key, value)] := by
  have onePiece : Text.split ',' (key ++ "=" ++ value) = [key ++ "=" ++ value] := by
    have plain : ',' ∉ (key ++ "=" ++ value).toList := by
      simp [option.key_one_piece, option.value_one_piece]
    rw [Text.split, split_of_not_mem plain, List.map_singleton, String.ofList_toList]
  have notEmpty : key ++ "=" ++ value ≠ "" := by
    simp [option.key_ne_empty]
  simp [parse, onePiece, option.trim_text, notEmpty, option.parseEntry_text]

end IsOption

/-- Options that are written out are read back.  The induction is on their list: every comma between
two options joins two texts. -/
theorem entries_parse_write {options : List (String × String)}
    (areOptions : ∀ option ∈ options, IsOption option.1 option.2) :
    (parse (write options)).entries = options := by
  induction options with
  | nil => rfl
  | cons option rest ih =>
      have isOption := areOptions option List.mem_cons_self
      have restRead := ih fun other member => areOptions other (List.mem_cons_of_mem _ member)
      cases rest with
      | nil => simpa [write] using isOption.entries_parse
      | cons next others =>
          have joined : write (option :: next :: others) =
              option.1 ++ "=" ++ option.2 ++ "," ++ write (next :: others) := by
            simp [write]
          rw [joined, entries_parse_append, isOption.entries_parse, restRead, List.singleton_append]

end Parameters

/-- The options of two texts joined by a comma are found together, those of the first before those
of the second.  Of the values of a key the first is the one that is got alone, and there is one
exactly if the key was passed.  Options written one after the other with commas between them are all
read back: every key has the values that were written for it, in order. -/
theorem parameters_compose_and_read_back :
    (∀ first second key : String,
      (Parameters.parse (first ++ "," ++ second)).getAll key =
        (Parameters.parse first).getAll key ++ (Parameters.parse second).getAll key) ∧
    (∀ text key : String,
      (Parameters.parse text).get? key = ((Parameters.parse text).getAll key).head? ∧
        ((Parameters.parse text).contains key = true ↔
          (Parameters.parse text).getAll key ≠ [])) ∧
    (∀ options : List (String × String),
      (∀ option ∈ options, Parameters.IsOption option.1 option.2) →
        ∀ key, (Parameters.parse (Parameters.write options)).getAll key =
          (options.filter fun option => option.1 = key).map Prod.snd) := by
  refine ⟨Parameters.getAll_parse_append, ?accessors, ?written⟩
  case accessors =>
    intro text key
    exact ⟨Parameters.get?_eq_head? _ key, Parameters.contains_iff _ key⟩
  case written =>
    intro options areOptions key
    rw [Parameters.getAll, Parameters.entries_parse_write areOptions]

/-- A key with several values, one of them empty and one with an equals sign in it. -/
theorem repeated_options_read_back :
    let options := [("skip", "a.proto"), ("note", "x=y z"), ("skip", "")]
    (∀ option ∈ options, Parameters.IsOption option.1 option.2) ∧
      Parameters.write options = "skip=a.proto,note=x=y z,skip=" ∧
      (Parameters.parse "skip=a.proto,note=x=y z,skip=").getAll "skip" = ["a.proto", ""] ∧
      (Parameters.parse "skip=a.proto,note=x=y z,skip=").getAll "note" = ["x=y z"] := by
  intro options
  have areOptions : ∀ option ∈ options, Parameters.IsOption option.1 option.2 := by
    simp only [options, List.forall_mem_cons, List.not_mem_nil, false_implies, implies_true,
      and_true]
    refine ⟨?_, ?_, ?_⟩ <;> constructor <;> decide
  have written : Parameters.write options = "skip=a.proto,note=x=y z,skip=" := by decide
  have values := parameters_compose_and_read_back.2.2 options areOptions
  rw [written] at values
  exact ⟨areOptions, written, values "skip", values "note"⟩

end ProtoCompanion
