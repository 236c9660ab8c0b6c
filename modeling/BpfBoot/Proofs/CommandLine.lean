import BpfBoot.CommandLine

/-!
# What a command line says

A command line names directories for the configuration and holds words, and behind `--` all arguments are words.
It is carried out if it names one directory at most and has no word but a single `done`. Help is given as long
as nothing is wrong with the arguments before the one that asks for it.

A reading that is under way holds the directories and words of the arguments that it has got through. So what
becomes of a command line is found by going through its arguments as long as they are options and words: what
stands behind these decides.
-/

namespace BpfBoot.CommandLine

/-! ## Arguments -/

/-- The argument is no option. A single dash is a word. -/
def IsPlain (arg : String) : Prop :=
  arg = "-" ∨ arg.toList.head? ≠ some '-'

def AsksHelp (arg : String) : Prop :=
  arg = "--help" ∨ ['-', 'h'] <+: arg.toList

/-- Options and words in any order: the directories that the options name, and the words. -/
inductive Options : List String → List String → List String → Prop where
  | nil : Options [] [] []
  | separate {dir : String} {args dirs words : List String} (hdir : IsPlain dir) (h : Options args dirs words) :
      Options ("--config-dir" :: dir :: args) (dir :: dirs) words
  | joined {dir : String} {args dirs words : List String} (h : Options args dirs words) :
      Options (("--config-dir=" ++ dir) :: args) (dir :: dirs) words
  | word {word : String} {args dirs words : List String} (hword : IsPlain word) (h : Options args dirs words) :
      Options (word :: args) dirs (word :: words)

/-- What a whole command line says. Behind the separator there are no options. -/
inductive Says : List String → List String → List String → Prop where
  | options {args dirs words : List String} (h : Options args dirs words) : Says args dirs words
  | separator {before after dirs words : List String} (h : Options before dirs words) :
      Says (before ++ "--" :: after) dirs (words ++ after)

/-- There is one directory at most, and no word but a single `done`. -/
def IsFine (dirs words : List String) : Prop :=
  dirs.length ≤ 1 ∧ (words = [] ∨ words = ["done"])

/-- An argument asks for help, and nothing is wrong with those before it. -/
def SaysHelp (args : List String) : Prop :=
  ∃ before arg after dirs words, args = before ++ arg :: after ∧ Options before dirs words
    ∧ IsFine dirs words ∧ AsksHelp arg

theorem IsFine.of_append {dirs dirs' words words' : List String} (h : IsFine (dirs ++ dirs') (words ++ words')) :
    IsFine dirs words := by
  obtain ⟨hdirs, hwords⟩ := h
  rw [List.length_append] at hdirs
  refine ⟨by omega, ?_⟩
  rcases hwords with hwords | hwords
  · exact .inl (List.append_eq_nil_iff.mp hwords).1
  · cases words with
    | nil => exact .inl rfl
    | cons word words =>
      obtain ⟨rfl, hrest⟩ := List.cons.inj hwords
      rw [(List.append_eq_nil_iff.mp hrest).1]
      exact .inr rfl

/-! ### Kinds of arguments -/

theorem ofString_plain {arg : String} (h : IsPlain arg) : Argument.ofString arg = .plain arg := by
  rcases h with rfl | h
  · decide
  · unfold Argument.ofString
    split
    case h_5 => rfl
    case h_3 hlist => rfl
    all_goals
      rename_i hlist
      rw [hlist] at h
      exact absurd rfl h

theorem ofString_joined (dir : String) :
    Argument.ofString ("--config-dir=" ++ dir) = .long configDirName (some dir) := by
  have hsign : "--config-dir=".toList = '-' :: '-' :: (configDirName ++ ['=']) := by decide
  have hlist : ("--config-dir=" ++ dir).toList = '-' :: '-' :: (configDirName ++ '=' :: dir.toList) := by
    rw [String.toList_append, hsign]
    simp
  have hname : ∀ c ∈ configDirName, (c != '=') = true := List.all_eq_true.mp (by decide)
  unfold Argument.ofString
  rw [hlist]
  split
  case h_1 hshape => cases hshape
  case h_3 hshape => cases hshape
  case h_2 rest hshape =>
    cases hshape
    rw [List.dropWhile_append_of_pos hname, List.takeWhile_append_of_pos hname]
    simp
  case h_4 hlong _ hshape =>
    cases hshape
    exact (hlong _ rfl).elim
  case h_5 hdash => exact (hdash _ rfl).elim

/-- How each kind of argument is spelled. -/
inductive Argument.Spelled : String → Argument → Prop where
  | separator : Spelled "--" .separator
  | bare {name : List Char} : Spelled (.ofList ('-' :: '-' :: name)) (.long name none)
  | valued {name value : List Char} :
      Spelled (.ofList ('-' :: '-' :: (name ++ '=' :: value))) (.long name (some (.ofList value)))
  | short {letters : List Char} : Spelled (.ofList ('-' :: letters)) (.short letters)
  | plain {arg : String} (h : IsPlain arg) : Spelled arg (.plain arg)

theorem spelled_ofString (arg : String) : Argument.Spelled arg (Argument.ofString arg) := by
  have hspelled {list : List Char} (h : arg.toList = list) : arg = .ofList list := by
    rw [← h, String.ofList_toList]
  unfold Argument.ofString
  split
  case h_1 hlist =>
    rw [hspelled hlist]
    exact .separator
  case h_2 rest _ hlist =>
    have hsplit := List.takeWhile_append_dropWhile (p := (· != '=')) (l := rest)
    rw [hspelled hlist]
    cases hvalue : rest.dropWhile (· != '=') with
    | nil => exact .bare
    | cons c value =>
      have hsign : c = '=' := by
        have hstop := List.head?_dropWhile_not (· != '=') rest
        rw [hvalue] at hstop
        simpa using hstop
      rw [hvalue, hsign] at hsplit
      have hvalued : Argument.Spelled (.ofList ('-' :: '-' :: (rest.takeWhile (· != '=') ++ '=' :: value)))
          (.long (rest.takeWhile (· != '=')) (some (.ofList value))) := .valued
      rw [hsplit] at hvalued
      exact hvalued
  case h_3 hlist => exact .plain (.inl (hspelled hlist))
  case h_4 hlist =>
    rw [hspelled hlist]
    exact .short
  case h_5 hother =>
    refine .plain (.inr ?_)
    intro hdash
    obtain ⟨letters, hletters⟩ := List.head?_eq_some_iff.mp hdash
    exact hother letters hletters

/-! ## Readings -/

/-- The command line is not carried out, and not for the sake of help. -/
def IsRefused {α : Type} (x : Except UsageError α) : Prop :=
  ∃ e, e ≠ .help ∧ x = .error e

namespace Reading

/-- The directories that were named. -/
def dirs (r : Reading) : List String :=
  r.result.configDir.toList ++ match r.pending with
    | some (.configDir (some dir)) => [dir]
    | _ => []

/-- The words that were read. -/
def words (r : Reading) : List String :=
  (if r.result.done then ["done"] else []) ++ match r.pending with
    | some (.word word) => [word]
    | _ => []

section

variable (line : CommandLine) (hasWord : Bool)

@[simp] theorem dirs_settled : dirs ⟨line, none, hasWord⟩ = line.configDir.toList :=
  List.append_nil _

@[simp] theorem words_settled : words ⟨line, none, hasWord⟩ = if line.done then ["done"] else [] :=
  List.append_nil _

@[simp] theorem dirs_named (dir : String) :
    dirs ⟨line, some (.configDir (some dir)), hasWord⟩ = line.configDir.toList ++ [dir] := rfl

@[simp] theorem words_named (dir : String) :
    words ⟨line, some (.configDir (some dir)), hasWord⟩ = if line.done then ["done"] else [] :=
  List.append_nil _

@[simp] theorem dirs_word (word : String) :
    dirs ⟨line, some (.word word), hasWord⟩ = line.configDir.toList :=
  List.append_nil _

@[simp] theorem words_word (word : String) :
    words ⟨line, some (.word word), hasWord⟩ = (if line.done then ["done"] else []) ++ [word] := rfl

end

/-- No option waits for its value, and it is known whether a word was read. -/
structure IsWhole (r : Reading) : Prop where
  pending : r.pending ≠ some (.configDir none)
  length_words : r.words.length ≤ 1
  hasWord : r.hasWord = true ↔ r.words ≠ []

theorem isWhole_start : start.IsWhole :=
  ⟨nofun, by decide, by decide⟩

/-- Nothing is pending any more, and nothing is wrong with what was read. -/
structure Settles (r s : Reading) : Prop where
  pending : s.pending = none
  dirs : s.dirs = r.dirs
  words : s.words = r.words
  hasWord : s.hasWord = r.hasWord
  isFine : IsFine r.dirs r.words

variable {r s : Reading}

theorem settle_cases (h : r.IsWhole) :
    (∃ s, r.settle = .ok s ∧ r.Settles s) ∨ (IsRefused r.settle ∧ ¬ IsFine r.dirs r.words) := by
  obtain ⟨⟨done, dir⟩, pending, hasWord⟩ := r
  rcases pending with _ | ⟨_ | value⟩ | word
  · refine .inl ⟨_, rfl, rfl, rfl, rfl, rfl, ?_⟩
    cases dir <;> cases done <;> simp [IsFine]
  · exact absurd rfl h.pending
  · cases dir with
    | none =>
      refine .inl ⟨_, rfl, rfl, rfl, rfl, rfl, ?_⟩
      cases done <;> simp [IsFine]
    | some dir =>
      refine .inr ⟨⟨.repeated, nofun, rfl⟩, ?_⟩
      intro hfine
      exact absurd hfine.1 (by simp)
  · have hdone : done = false := by
      have hlength := h.length_words
      cases done
      · rfl
      · simp at hlength
    subst hdone
    by_cases hword : word = "done"
    · subst hword
      refine .inl ⟨_, rfl, rfl, ?_, rfl, rfl, ?_⟩
      · rfl
      · cases dir <;> simp [IsFine]
    · refine .inr ⟨⟨.invalidValue, nofun, ?_⟩, ?_⟩
      · simp [settle, doneWord, hword]
      · intro hfine
        exact absurd hfine.2 (by simp [hword])

theorem Settles.isWhole (h : r.Settles s) (hr : r.IsWhole) : s.IsWhole where
  pending := by
    rw [h.pending]
    nofun
  length_words := by
    rw [h.words]
    exact hr.length_words
  hasWord := by
    rw [h.words, h.hasWord]
    exact hr.hasWord

theorem Settles.eq_of_result (h : r.Settles s) {line : CommandLine} (hdirs : r.dirs = line.configDir.toList)
    (hwords : r.words = if line.done then ["done"] else []) : s.result = line := by
  obtain ⟨⟨done, dir⟩, pending, hasWord⟩ := s
  obtain ⟨done', dir'⟩ := line
  obtain rfl : pending = none := h.pending
  have hdir : dir.toList = dir'.toList := by simpa using h.dirs.trans hdirs
  have hdone : (if done then ["done"] else []) = if done' then ["done"] else [] := by
    simpa using h.words.trans hwords
  cases dir <;> cases dir' <;> cases done <;> cases done' <;> simp_all

end Reading

/-! ## What is refused before anything else is read -/

theorem IsRefused.bind {α β : Type} {x : Except UsageError α} (h : IsRefused x) (f : α → Except UsageError β) :
    IsRefused (x >>= f) := by
  obtain ⟨e, he, rfl⟩ := h
  exact ⟨e, he, rfl⟩

variable {r : Reading}

section Unsettled

variable {e : UsageError} (he : e ≠ .help) (h : r.settle = .error e)
include he h

theorem isRefused_askHelp : IsRefused (askHelp r) := by
  refine ⟨e, he, ?_⟩
  rw [askHelp, h]

theorem isRefused_readLong (name : List Char) (value : Option String) : IsRefused (readLong r name value) := by
  unfold readLong
  split
  · refine ⟨e, he, ?_⟩
    rw [h]
    rfl
  · split
    · cases value with
      | none => exact isRefused_askHelp he h
      | some value => exact ⟨.unexpectedValue, nofun, rfl⟩
    · exact ⟨.unknownArgument, nofun, rfl⟩

theorem isRefused_readShort (letters : List Char) : IsRefused (readShort r letters) := by
  unfold readShort
  split
  · exact isRefused_askHelp he h
  · exact ⟨.unknownArgument, nofun, rfl⟩

theorem isRefused_readWord (word : String) : IsRefused (readWord r word) := by
  unfold readWord
  split
  · exact ⟨.unknownArgument, nofun, rfl⟩
  · refine ⟨e, he, ?_⟩
    rw [h]

theorem isRefused_readWords (words : List String) : IsRefused (readWords r words) := by
  cases words with
  | nil => exact ⟨e, he, h⟩
  | cons word words => exact (isRefused_readWord he h word).bind _

end Unsettled

/-! ## Going through the arguments -/

/-- What was read is `dirs` and `words` more, and `next` goes on with it; or the reading is refused for what is
wrong with that. -/
def GoesOn (x : Except UsageError Reading) (r : Reading) (dirs words : List String)
    (next : Reading → Except UsageError Reading) : Prop :=
  (∃ s, s.IsWhole ∧ s.dirs = r.dirs ++ dirs ∧ s.words = r.words ++ words ∧ x = next s)
    ∨ (IsRefused x ∧ ¬ IsFine (r.dirs ++ dirs) (r.words ++ words))

variable {x : Except UsageError Reading} {next : Reading → Except UsageError Reading}

theorem goesOn_self (next : Reading → Except UsageError Reading) (h : r.IsWhole) : GoesOn (next r) r [] [] next :=
  .inl ⟨r, h, by simp, by simp, rfl⟩

theorem GoesOn.trans {dirs dirs' words words' : List String} {last : Reading → Except UsageError Reading}
    (h : GoesOn x r dirs words next) (hnext : ∀ s, s.IsWhole → GoesOn (next s) s dirs' words' last) :
    GoesOn x r (dirs ++ dirs') (words ++ words') last := by
  rw [GoesOn, ← List.append_assoc, ← List.append_assoc]
  rcases h with ⟨s, hs, hdirs, hwords, rfl⟩ | ⟨hrefused, hwrong⟩
  · rw [← hdirs, ← hwords]
    exact hnext s hs
  · exact .inr ⟨hrefused, fun hfine => hwrong hfine.of_append⟩

theorem goesOn_readWord (h : r.IsWhole) (word : String) : GoesOn (readWord r word >>= next) r [] [word] next := by
  rw [GoesOn, List.append_nil]
  cases hword : r.hasWord with
  | true =>
    refine .inr ⟨⟨.unknownArgument, nofun, ?_⟩, ?_⟩
    · rw [readWord, hword]
      rfl
    · intro hfine
      obtain ⟨first, rest, hwords⟩ := List.exists_cons_of_ne_nil (h.hasWord.mp hword)
      rw [hwords] at hfine
      exact absurd hfine.2 (by simp)
  | false =>
    have hwords : r.words = [] := by
      refine Classical.not_not.mp fun hne => ?_
      rw [h.hasWord.mpr hne] at hword
      cases hword
    rcases Reading.settle_cases h with ⟨s, hs, hsettles⟩ | ⟨⟨e, he, hs⟩, hwrong⟩
    · obtain ⟨line, pending, hasWord⟩ := s
      obtain rfl : pending = none := hsettles.pending
      have hread : readWord r word = .ok ⟨line, some (.word word), true⟩ := by
        rw [readWord, hword, hs]
        rfl
      have hdone : (if line.done then ["done"] else []) = [] := by
        simpa using hsettles.words.trans hwords
      have hdirs : line.configDir.toList = r.dirs := by simpa using hsettles.dirs
      rw [hread]
      refine .inl ⟨_, ⟨?_, ?_, ?_⟩, ?_, ?_, rfl⟩
      all_goals simp [hdone, hdirs, hwords]
    · refine .inr ⟨(isRefused_readWord he hs word).bind _, fun hfine => hwrong ?_⟩
      have hmore : IsFine (r.dirs ++ []) (r.words ++ [word]) := by rwa [List.append_nil]
      exact hmore.of_append

theorem goesOn_readWords (h : r.IsWhole) (words : List String) :
    GoesOn (readWords r words) r [] words Reading.settle := by
  induction words generalizing r with
  | nil => exact goesOn_self Reading.settle h
  | cons word words ih =>
    have hword : GoesOn (readWord r word >>= (readWords · words)) r [] [word] (readWords · words) :=
      goesOn_readWord h word
    exact hword.trans fun s hs => ih hs

theorem readAll_of_plain (h : r.IsWhole) {word : String} (hword : IsPlain word) (rest : List String) :
    readAll r (word :: rest) = readWord r word >>= (readAll · rest) := by
  rw [readAll, ofString_plain hword]
  dsimp only
  split
  next hpending => exact absurd hpending h.pending
  · rfl

/-- A directory is named behind all that was read before, if nothing is wrong with that. -/
theorem named_cases (h : r.IsWhole) (dir : String) :
    (∃ line hasWord, r.settle = .ok ⟨line, none, hasWord⟩
        ∧ Reading.IsWhole ⟨line, some (.configDir (some dir)), hasWord⟩
        ∧ Reading.dirs ⟨line, some (.configDir (some dir)), hasWord⟩ = r.dirs ++ [dir]
        ∧ Reading.words ⟨line, some (.configDir (some dir)), hasWord⟩ = r.words)
      ∨ ∃ e, e ≠ .help ∧ r.settle = .error e ∧ ¬ IsFine (r.dirs ++ [dir]) r.words := by
  rcases Reading.settle_cases h with ⟨s, hs, hsettles⟩ | ⟨⟨e, he, hs⟩, hwrong⟩
  · have hsettled := hsettles.isWhole h
    obtain ⟨line, pending, hasWord⟩ := s
    obtain rfl : pending = none := hsettles.pending
    refine .inl ⟨line, hasWord, hs, ⟨by simp, ?_, ?_⟩, ?_, ?_⟩
    · simpa using hsettled.length_words
    · simpa using hsettled.hasWord
    · rw [Reading.dirs_named, ← hsettles.dirs, Reading.dirs_settled]
    · rw [Reading.words_named, ← hsettles.words, Reading.words_settled]
  · refine .inr ⟨e, he, hs, fun hfine => hwrong ?_⟩
    have hmore : IsFine (r.dirs ++ [dir]) (r.words ++ []) := by rwa [List.append_nil]
    exact hmore.of_append

theorem goesOn_separate (h : r.IsWhole) {dir : String} (hdir : IsPlain dir) (rest : List String) :
    GoesOn (readAll r ("--config-dir" :: dir :: rest)) r [dir] [] (readAll · rest) := by
  have hoption : Argument.ofString "--config-dir" = .long configDirName none := by decide
  rw [readAll, hoption, GoesOn, List.append_nil]
  rcases named_cases h dir with ⟨line, hasWord, hs, hwhole, hdirs, hwords⟩ | ⟨e, he, hs, hwrong⟩
  · have hread : readLong r configDirName none = .ok ⟨line, some (.configDir none), hasWord⟩ := by
      rw [readLong, hs]
      rfl
    refine .inl ⟨_, hwhole, hdirs, hwords, ?_⟩
    simp only [hread]
    change readAll _ (dir :: rest) = _
    rw [readAll, ofString_plain hdir]
  · exact .inr ⟨(isRefused_readLong he hs _ _).bind _, hwrong⟩

theorem goesOn_joined (h : r.IsWhole) (dir : String) (rest : List String) :
    GoesOn (readAll r (("--config-dir=" ++ dir) :: rest)) r [dir] [] (readAll · rest) := by
  rw [readAll, ofString_joined, GoesOn, List.append_nil]
  rcases named_cases h dir with ⟨line, hasWord, hs, hwhole, hdirs, hwords⟩ | ⟨e, he, hs, hwrong⟩
  · have hread : readLong r configDirName (some dir)
        = Reading.settle ⟨line, some (.configDir (some dir)), hasWord⟩ := by
      rw [readLong, hs]
      rfl
    simp only [hread]
    -- The value is complete, so it is looked at without waiting for the next argument.
    rcases Reading.settle_cases hwhole with ⟨t, ht, hsettles⟩ | ⟨hrefused, hwrong⟩
    · refine .inl ⟨t, hsettles.isWhole hwhole, hsettles.dirs.trans hdirs, hsettles.words.trans hwords, ?_⟩
      rw [ht]
      rfl
    · rw [hdirs, hwords] at hwrong
      exact .inr ⟨hrefused.bind _, hwrong⟩
  · exact .inr ⟨(isRefused_readLong he hs _ _).bind _, hwrong⟩

theorem goesOn_options {before dirs words : List String} (hbefore : Options before dirs words) (h : r.IsWhole)
    (rest : List String) : GoesOn (readAll r (before ++ rest)) r dirs words (readAll · rest) := by
  induction hbefore generalizing r with
  | nil => exact goesOn_self (readAll · rest) h
  | separate hdir _ ih => exact (goesOn_separate h hdir _).trans fun s hs => ih hs
  | joined _ ih => exact (goesOn_joined h _ _).trans fun s hs => ih hs
  | word hword _ ih =>
    rw [List.cons_append, readAll_of_plain h hword]
    exact (goesOn_readWord h _).trans fun s hs => ih hs

/-! ## Where options and words end -/

/-- No reading gets through the arguments, nor to a request for help. -/
def AreWrong (args : List String) : Prop :=
  ∀ r : Reading, r.IsWhole → IsRefused (readAll r args)

/-- What can stand behind options and words. -/
inductive Ends : List String → Prop where
  | nothing : Ends []
  | separator {after : List String} : Ends ("--" :: after)
  | help {arg : String} {after : List String} (h : AsksHelp arg) : Ends (arg :: after)
  | wrong {args : List String} (h : AreWrong args) : Ends args

/-- An option that waits for its value is in the way of everything but that. -/
theorem isRefused_of_waiting {line : CommandLine} {hasWord : Bool} {args : List String}
    (hargs : ∀ dir rest, args = dir :: rest → ¬ IsPlain dir) :
    IsRefused (readAll ⟨line, some (.configDir none), hasWord⟩ args) := by
  have hhelp : UsageError.invalidValue ≠ .help := nofun
  have hsettle : Reading.settle ⟨line, some (.configDir none), hasWord⟩ = .error .invalidValue := rfl
  cases args with
  | nil => exact ⟨.invalidValue, hhelp, hsettle⟩
  | cons arg rest =>
    have hspelled := spelled_ofString arg
    rw [readAll]
    generalize Argument.ofString arg = kind at hspelled ⊢
    cases hspelled with
    | separator => exact isRefused_readWords hhelp hsettle rest
    | bare | valued => exact (isRefused_readLong hhelp hsettle _ _).bind _
    | short => exact (isRefused_readShort hhelp hsettle _).bind _
    | plain h => exact absurd h (hargs arg rest rfl)

theorem areWrong_waiting {args : List String} (hargs : ∀ dir rest, args = dir :: rest → ¬ IsPlain dir) :
    AreWrong ("--config-dir" :: args) := by
  intro r h
  have hoption : Argument.ofString "--config-dir" = .long configDirName none := by decide
  rw [readAll, hoption]
  rcases Reading.settle_cases h with ⟨s, hs, -⟩ | ⟨⟨e, he, hs⟩, -⟩
  · have hread : readLong r configDirName none = .ok ⟨s.result, some (.configDir none), s.hasWord⟩ := by
      rw [readLong, hs]
      rfl
    simp only [hread]
    exact isRefused_of_waiting hargs
  · exact (isRefused_readLong he hs _ _).bind _

theorem areWrong_of_long {arg : String} {name : List Char} {value : Option String}
    (harg : Argument.ofString arg = .long name value) (hname : name ≠ configDirName)
    (hhelp : name = helpName → value ≠ none) (rest : List String) : AreWrong (arg :: rest) := by
  intro r _
  have hread : IsRefused (readLong r name value) := by
    unfold readLong
    rw [if_neg (by simpa using hname)]
    split
    next hasked =>
      cases value with
      | none => exact absurd rfl (hhelp (by simpa using hasked))
      | some value => exact ⟨.unexpectedValue, nofun, rfl⟩
    · exact ⟨.unknownArgument, nofun, rfl⟩
  rw [readAll, harg]
  exact hread.bind _

theorem areWrong_of_short {arg : String} {letters : List Char} (harg : Argument.ofString arg = .short letters)
    (hletters : letters.head? ≠ some helpLetter) (rest : List String) : AreWrong (arg :: rest) := by
  intro r _
  have hread : IsRefused (readShort r letters) := by
    unfold readShort
    rw [if_neg (by simpa using hletters)]
    exact ⟨.unknownArgument, nofun, rfl⟩
  rw [readAll, harg]
  exact hread.bind _

/-- Going through the arguments as far as they are options and words comes to one of the ends. -/
theorem exists_options (args : List String) :
    ∃ before rest dirs words, args = before ++ rest ∧ Options before dirs words ∧ Ends rest := by
  cases args with
  | nil => exact ⟨[], [], [], [], rfl, .nil, .nothing⟩
  | cons arg args =>
    have hend (h : Ends (arg :: args)) :
        ∃ before rest dirs words, arg :: args = before ++ rest ∧ Options before dirs words ∧ Ends rest :=
      ⟨[], arg :: args, [], [], rfl, .nil, h⟩
    have hspelled := spelled_ofString arg
    generalize harg : Argument.ofString arg = kind at hspelled
    cases hspelled with
    | separator => exact hend .separator
    | @bare name =>
      by_cases hname : name = configDirName
      · obtain rfl := hname
        have hoption : String.ofList ('-' :: '-' :: configDirName) = "--config-dir" := by decide
        rw [hoption] at hend ⊢
        match args with
        | [] => exact hend (.wrong (areWrong_waiting nofun))
        | dir :: args =>
          by_cases hdir : IsPlain dir
          · obtain ⟨before, rest, dirs, words, rfl, hbefore, hrest⟩ := exists_options args
            exact ⟨"--config-dir" :: dir :: before, rest, dir :: dirs, words, rfl, .separate hdir hbefore, hrest⟩
          · refine hend (.wrong (areWrong_waiting fun dir' rest h => ?_))
            cases h
            exact hdir
      · by_cases hhelp : name = helpName
        · obtain rfl := hhelp
          exact hend (.help (.inl (by decide)))
        · exact hend (.wrong (areWrong_of_long harg hname (absurd · hhelp) args))
    | @valued name value =>
      by_cases hname : name = configDirName
      · obtain rfl := hname
        have hoption : String.ofList ('-' :: '-' :: (configDirName ++ '=' :: value))
            = "--config-dir=" ++ String.ofList value := by
          have hsign : "--config-dir=" = String.ofList ('-' :: '-' :: (configDirName ++ ['='])) := by decide
          rw [hsign, ← String.ofList_append]
          simp
        rw [hoption]
        obtain ⟨before, rest, dirs, words, rfl, hbefore, hrest⟩ := exists_options args
        exact ⟨_ :: before, rest, _ :: dirs, words, rfl, .joined hbefore, hrest⟩
      · exact hend (.wrong (areWrong_of_long harg hname (fun _ => nofun) args))
    | @short letters =>
      by_cases hletters : letters.head? = some helpLetter
      · obtain ⟨rest, rfl⟩ := List.head?_eq_some_iff.mp hletters
        refine hend (.help (.inr ?_))
        rw [String.toList_ofList]
        exact ⟨rest, rfl⟩
      · exact hend (.wrong (areWrong_of_short harg hletters args))
    | plain hword =>
      obtain ⟨before, rest, dirs, words, rfl, hbefore, hrest⟩ := exists_options args
      exact ⟨arg :: before, rest, dirs, arg :: words, rfl, .word hword hbefore, hrest⟩
termination_by args.length

theorem readAll_of_asksHelp {arg : String} (h : AsksHelp arg) (r : Reading) (rest : List String) :
    readAll r (arg :: rest) = askHelp r >>= (readAll · rest) := by
  rcases h with rfl | ⟨letters, hletters⟩
  · have hoption : Argument.ofString "--help" = .long helpName none := by decide
    have hread : readLong r helpName none = askHelp r := rfl
    rw [readAll, hoption]
    simp only [hread]
  · have hoption : Argument.ofString arg = .short (helpLetter :: letters) := by
      unfold Argument.ofString
      rw [← hletters]
      rfl
    have hread : readShort r (helpLetter :: letters) = askHelp r := by
      unfold readShort
      exact if_pos (by simp)
    rw [readAll, hoption]
    simp only [hread]

/-! ## Whole command lines -/

theorem goesOn_says {args dirs words : List String} (h : Says args dirs words) :
    GoesOn (readAll .start args) .start dirs words Reading.settle := by
  cases h with
  | options h =>
    have hread := goesOn_options h Reading.isWhole_start []
    rw [List.append_nil] at hread
    exact hread
  | @separator before after dirs words h =>
    have hread : GoesOn (readAll .start (before ++ "--" :: after)) .start dirs words (readWords · after) :=
      goesOn_options h Reading.isWhole_start ("--" :: after)
    have hall := hread.trans fun s hs => goesOn_readWords hs after
    rw [List.append_nil] at hall
    exact hall

/-- What a command line says decides whether it is carried out. -/
theorem readAll_of_says {args dirs words : List String} (h : Says args dirs words) :
    (∃ r s : Reading, readAll .start args = .ok s ∧ r.Settles s ∧ r.dirs = dirs ∧ r.words = words)
      ∨ (IsRefused (readAll .start args) ∧ ¬ IsFine dirs words) := by
  rcases goesOn_says h with ⟨r, hr, hdirs, hwords, hread⟩ | hrefused
  · obtain rfl : r.dirs = dirs := hdirs
    obtain rfl : r.words = words := hwords
    rw [hread]
    rcases Reading.settle_cases hr with ⟨s, hs, hsettles⟩ | hrefused
    · exact .inl ⟨r, s, hs, hsettles, rfl, rfl⟩
    · exact .inr hrefused
  · exact .inr hrefused

/-- Help is given unless something is wrong with what stands before. -/
theorem readAll_of_help {before after dirs words : List String} {arg : String}
    (hbefore : Options before dirs words) (harg : AsksHelp arg) :
    (readAll .start (before ++ arg :: after) = .error .help ∧ IsFine dirs words)
      ∨ IsRefused (readAll .start (before ++ arg :: after)) ∧ ¬ IsFine dirs words := by
  rcases goesOn_options hbefore Reading.isWhole_start (arg :: after) with
    ⟨r, hr, hdirs, hwords, hread⟩ | hrefused
  · obtain rfl : r.dirs = dirs := hdirs
    obtain rfl : r.words = words := hwords
    rw [hread]
    dsimp only
    rw [readAll_of_asksHelp harg]
    rcases Reading.settle_cases hr with ⟨s, hs, hsettles⟩ | ⟨⟨e, he, hs⟩, hwrong⟩
    · refine .inl ⟨?_, hsettles.isFine⟩
      rw [askHelp, hs]
      rfl
    · exact .inr ⟨(isRefused_askHelp he hs).bind _, hwrong⟩
  · exact .inr hrefused

theorem says_or_saysHelp_or_isRefused (args : List String) :
    (∃ dirs words, Says args dirs words) ∨ SaysHelp args ∨ IsRefused (readAll .start args) := by
  obtain ⟨before, rest, dirs, words, rfl, hbefore, hrest⟩ := exists_options args
  cases hrest with
  | nothing =>
    rw [List.append_nil]
    exact .inl ⟨dirs, words, .options hbefore⟩
  | separator => exact .inl ⟨dirs, _, .separator hbefore⟩
  | help harg =>
    right
    rcases readAll_of_help hbefore harg with ⟨-, hfine⟩ | ⟨hrefused, -⟩
    · exact .inl ⟨before, _, _, dirs, words, rfl, hbefore, hfine, harg⟩
    · exact .inr hrefused
  | wrong hwrong =>
    refine .inr (.inr ?_)
    rcases goesOn_options hbefore Reading.isWhole_start rest with ⟨r, hr, -, -, hread⟩ | ⟨hrefused, -⟩
    · rw [hread]
      exact hwrong r hr
    · exact hrefused

theorem readAll_of_saysHelp {args : List String} (h : SaysHelp args) : readAll .start args = .error .help := by
  obtain ⟨before, arg, after, dirs, words, rfl, hbefore, hfine, harg⟩ := h
  rcases readAll_of_help hbefore harg with ⟨hhelp, -⟩ | ⟨-, hwrong⟩
  · exact hhelp
  · exact absurd hfine hwrong

/-- A command line is carried out if it names one directory at most and has no word but `done`. -/
theorem parse_eq_ok_iff {args : List String} {line : CommandLine} :
    parse args = .ok line ↔ Says args line.configDir.toList (if line.done then ["done"] else []) := by
  constructor
  · intro h
    unfold parse at h
    rcases says_or_saysHelp_or_isRefused args with ⟨dirs, words, hsays⟩ | hhelp | ⟨e, -, hrefused⟩
    · rcases readAll_of_says hsays with ⟨r, s, hread, hsettles, rfl, rfl⟩ | ⟨⟨e, -, hrefused⟩, -⟩
      · rw [hread] at h
        cases h
        obtain ⟨line, pending, hasWord⟩ := s
        obtain rfl : pending = none := hsettles.pending
        rw [← hsettles.dirs, ← hsettles.words, Reading.dirs_settled, Reading.words_settled] at hsays
        exact hsays
      · rw [hrefused] at h
        cases h
    · rw [readAll_of_saysHelp hhelp] at h
      cases h
    · rw [hrefused] at h
      cases h
  · intro hsays
    rcases readAll_of_says hsays with ⟨r, s, hread, hsettles, hdirs, hwords⟩ | ⟨-, hwrong⟩
    · rw [parse, hread, ← hsettles.eq_of_result hdirs hwords]
      rfl
    · refine absurd ⟨?_, ?_⟩ hwrong
      · cases line.configDir <;> simp
      · cases line.done <;> simp

theorem parse_eq_help_iff {args : List String} : parse args = .error .help ↔ SaysHelp args := by
  have hparse {e : UsageError} : parse args = .error e ↔ readAll .start args = .error e := by
    rw [parse]
    cases readAll .start args with
    | ok s => exact ⟨nofun, nofun⟩
    | error e' => simp [bind, Except.bind]
  rw [hparse]
  constructor
  · intro h
    rcases says_or_saysHelp_or_isRefused args with ⟨dirs, words, hsays⟩ | hhelp | ⟨e, he, hrefused⟩
    · rcases readAll_of_says hsays with ⟨r, s, hread, -⟩ | ⟨⟨e, he, hrefused⟩, -⟩
      · rw [hread] at h
        cases h
      · rw [hrefused] at h
        cases h
        exact absurd rfl he
    · exact hhelp
    · rw [hrefused] at h
      cases h
      exact absurd rfl he
  · exact readAll_of_saysHelp

end BpfBoot.CommandLine
