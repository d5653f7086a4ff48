import Mathlib.Data.List.TakeWhile
import ReducerAtlas.Proofs.Apart
import ReducerAtlas.Proofs.Failing

/-!
# Options that make no settings

Options are read from texts that anyone wrote. Where a required one is missing the user is told so,
and so is one whose pattern is malformed. Other values are not looked at before they are used: a
pattern that is no text or whose flags exclude each other, a number with too many digits, a path
that holds the null character or half of a character.

* `Text.exists_mem_splitBy_iff`, `Text.mem_trimWith_iff`: the letters of a text that is cut.
* `Path.hasNull_joinText_iff`: a null character comes from the text that is joined;
  `pathText_eq_ok`, `pathText_eq_error`: the letters of a text that is joined.
* `Options.Unfit`: the failures that no user is told of, with their causes.
* `Settings.failsOnly_stages`: the failures of settings are those of their stages.
* **`Settings.failsOnly_ofOptions`**: options that make no settings are reported or unfit.
* **`Settings.MadeFrom.not_unfit`**: options that make settings are not unfit.
-/

namespace ReducerAtlas

/-! ## Texts that are cut -/

namespace Text

variable {α : Type} {p : α → Bool} {a : α} {l : List α}

theorem mem_dropWhile_iff (ha : p a = false) : a ∈ l.dropWhile p ↔ a ∈ l := by
  constructor
  · exact fun h => List.dropWhile_subset p h
  · intro h
    rw [← List.takeWhile_append_dropWhile (p := p) (l := l)] at h
    refine (List.mem_append.mp h).resolve_left fun htake => ?_
    rw [List.mem_takeWhile_imp htake] at ha
    cases ha

theorem mem_trimWith_iff (ha : p a = false) : a ∈ trimWith p l ↔ a ∈ l := by
  rw [trimWith, List.mem_reverse, mem_dropWhile_iff ha, List.mem_reverse, mem_dropWhile_iff ha]

theorem exists_mem_splitBy_iff (ha : p a = false) : (∃ piece ∈ splitBy p l, a ∈ piece) ↔ a ∈ l := by
  induction l with
  | nil => simp [splitBy]
  | cons d l ih =>
    rw [splitBy, List.mem_cons, ← ih]
    split_ifs with hd
    · have hne : a ≠ d := by
        rintro rfl
        rw [hd] at ha
        cases ha
      simp [hne]
    · cases splitBy p l with
      | nil => simp
      | cons first rest => simp [or_assoc]

end Text

open ReducerAtlas.Text

/-! ## Null characters -/

namespace Path

variable {p : Path} {s : String}

theorem hasNull_parse_iff : (parse s).hasNull = true ↔ '\x00' ∈ s.toList := by
  rw [← exists_mem_splitBy_iff (p := (· == '/')) (a := '\x00') (by decide)]
  have hkept : ∀ piece : List Char, '\x00' ∈ piece →
      (!piece.isEmpty && piece != ['.']) = true := by
    rintro piece hnull
    have hdot : piece ≠ ['.'] := by
      rintro rfl
      exact absurd hnull (by decide)
    simp [List.ne_nil_of_mem hnull, hdot]
  simp only [hasNull, parse, partsOf, List.any_eq_true, List.mem_map, List.mem_filter,
    List.contains_iff_mem, exists_exists_and_eq_and, String.toList_ofList]
  constructor
  · rintro ⟨piece, ⟨hpiece, -⟩, hnull⟩
    exact ⟨piece, hpiece, hnull⟩
  · rintro ⟨piece, hpiece, hnull⟩
    exact ⟨piece, ⟨hpiece, hkept piece hnull⟩, hnull⟩

theorem hasNull_joinText_iff (hp : p.hasNull = false) :
    (p.joinText s).hasNull = true ↔ '\x00' ∈ s.toList := by
  rw [← hasNull_parse_iff, joinText, join]
  split_ifs
  · rfl
  · unfold hasNull at hp ⊢
    rw [List.any_append, hp, Bool.false_or]

end Path

theorem Disk.hasNull_of_resolve {p q : Path} (h : Disk.resolve p = .ok q) : p.hasNull = false := by
  have hsome := Disk.resolve_eq_ok_iff.mp h
  unfold Path.resolve? at hsome
  split_ifs at hsome with hnull
  exact eq_false_of_ne_true hnull

/-! ## Letters in paths -/

theorem ofNat_rawByte_ne : ∀ n : Fin 2048, isRawByte n = true →
    Char.ofNat (0x10FF00 + (n.val - 0x400)) ≠ '\x00' := by
  decide +kernel

theorem Text.Letter.inName_eq_null_iff {l : Letter} : l.inName = '\x00' ↔ l.isUnnamed = true := by
  cases l with
  | char c => simp [inName, isUnnamed, isNameless]
  | half n =>
    cases hraw : isRawByte n with
    | true => simpa [inName, isUnnamed, isNameless, hraw] using ofNat_rawByte_ne n hraw
    | false => simp [inName, isUnnamed, isNameless, hraw]

theorem Text.Letter.isUnnamed_of_isNameless {l : Letter} (h : l.isNameless = true) :
    l.isUnnamed = true := by
  rw [isUnnamed, h, Bool.true_or]

theorem Text.Letter.cases_of_isUnnamed {l : Letter} (h : l.isUnnamed = true) :
    (∃ n, l = .half n) ∨ l = .char '\x00' := by
  cases l with
  | half n => exact .inl ⟨n, rfl⟩
  | char c => exact .inr (by simpa [isUnnamed, isNameless] using h)

theorem null_mem_nameText_iff {ls : List Letter} :
    '\x00' ∈ (nameText ls).toList ↔ ∃ l ∈ ls, l.isUnnamed = true := by
  simp [nameText, Letter.inName_eq_null_iff]

section Below

variable {kind : Failure → Prop} {folder base p : Path} {text : String} {ls : List Letter}
  {texts : List (List Letter)} {paths : List Path} {failure : Failure}

/-- What can stand in no path is in one of the pieces between slashes. -/
theorem exists_mem_pieces_iff {l : Letter} (hl : l.isUnnamed = true) :
    (∃ piece ∈ splitBy (· == Letter.char '/') ls, l ∈ piece) ↔ l ∈ ls := by
  refine exists_mem_splitBy_iff ?_
  obtain ⟨n, rfl⟩ | rfl := Letter.cases_of_isUnnamed hl
  · rfl
  · decide

theorem pathText_eq_error (h : pathText ls = .error failure) :
    failure = .halfInPath ∧ ∃ l ∈ ls, l.isNameless = true := by
  unfold pathText at h
  dsimp only at h
  split_ifs at h with hrefused
  cases h
  refine ⟨rfl, ?_⟩
  cases hfind : (splitBy (· == Letter.char '/') ls).find? (·.any Letter.isUnnamed) with
  | none => simp [hfind] at hrefused
  | some piece =>
    rw [hfind] at hrefused
    obtain ⟨l, hl, hnameless⟩ := List.any_eq_true.mp hrefused
    refine ⟨l, (exists_mem_pieces_iff (Letter.isUnnamed_of_isNameless hnameless)).mp ?_, hnameless⟩
    exact ⟨piece, List.mem_of_find?_eq_some hfind, hl⟩

/-- A text that is taken as it is holds half of a character only behind a null character. -/
theorem pathText_eq_ok (h : pathText ls = .ok text) :
    text = nameText ls ∧ ((∃ l ∈ ls, l.isUnnamed = true) → Letter.char '\x00' ∈ ls) := by
  unfold pathText at h
  dsimp only at h
  split_ifs at h with hrefused
  cases h
  refine ⟨rfl, ?_⟩
  rintro ⟨l, hl, hunnamed⟩
  cases hfind : (splitBy (· == Letter.char '/') ls).find? (·.any Letter.isUnnamed) with
  | none =>
    obtain ⟨piece, hpiece, hin⟩ := (exists_mem_pieces_iff hunnamed).mpr hl
    have hnone := List.find?_eq_none.mp hfind piece hpiece
    exact absurd (List.any_eq_true.mpr ⟨l, hin, hunnamed⟩) hnone
  | some piece =>
    -- the first piece that is refused has no half, so it is the null character that it has
    rw [hfind] at hrefused
    have hany := List.find?_some (p := fun piece : List Letter => piece.any Letter.isUnnamed) hfind
    obtain ⟨l', hin, hunnamed'⟩ := List.any_eq_true.mp hany
    have hnamed : l'.isNameless = false := by
      simpa using fun hnameless => hrefused (List.any_eq_true.mpr ⟨l', hin, hnameless⟩)
    have hnull : l' = .char '\x00' := by simpa [Letter.isUnnamed, hnamed] using hunnamed'
    exact (exists_mem_pieces_iff (by decide)).mp
      ⟨piece, List.mem_of_find?_eq_some hfind, hnull ▸ hin⟩

theorem failsOnly_pathFrom (hfolder : folder.hasNull = false)
    (hhalf : (∃ l ∈ ls, l.isNameless = true) → kind .halfInPath)
    (hnull : Letter.char '\x00' ∈ ls → ∀ p : Path, p.hasNull = true → kind (.nullInPath p)) :
    FailsOnly kind (pathFrom folder ls) := by
  refine FailsOnly.bind (fun failure hfailure => ?_) fun text htext => ?_
  · obtain ⟨rfl, hin⟩ := pathText_eq_error hfailure
    exact hhalf hin
  · obtain ⟨rfl, hin⟩ := pathText_eq_ok htext
    refine Disk.failsOnly_resolve fun hp => hnull (hin ?_) _ hp
    exact null_mem_nameText_iff.mp ((Path.hasNull_joinText_iff hfolder).mp hp)

theorem named_of_pathFrom (hfolder : folder.hasNull = false) (h : pathFrom folder ls = .ok p) :
    ∀ l ∈ ls, l.isUnnamed = false := by
  obtain ⟨text, htext, h⟩ := bind_eq_ok h
  obtain ⟨rfl, -⟩ := pathText_eq_ok htext
  have hnull := Disk.hasNull_of_resolve h
  intro l hl
  refine eq_false_of_ne_true fun hunnamed => ?_
  have hin := null_mem_nameText_iff.mpr ⟨l, hl, hunnamed⟩
  rw [(Path.hasNull_joinText_iff hfolder).mpr hin] at hnull
  cases hnull

theorem mem_trimLetters_iff {l : Letter} (hl : l.isUnnamed = true) :
    l ∈ trimLetters ls ↔ l ∈ ls := by
  refine mem_trimWith_iff ?_
  obtain ⟨n, rfl⟩ | rfl := Letter.cases_of_isUnnamed hl
  · rfl
  · decide

theorem mem_below_iff {l : Letter} (hl : l.isUnnamed = true) :
    l ∈ (trimLetters ls).dropWhile (fun l => l == Letter.char '/' || l == Letter.char '\\') ↔
      l ∈ ls := by
  rw [mem_dropWhile_iff, mem_trimLetters_iff hl]
  obtain ⟨n, rfl⟩ | rfl := Letter.cases_of_isUnnamed hl
  · rfl
  · decide

theorem failsOnly_pathBelow (hbase : base.hasNull = false)
    (hhalf : (∃ l ∈ ls, l.isNameless = true) → kind .halfInPath)
    (hnull : Letter.char '\x00' ∈ ls → ∀ p : Path, p.hasNull = true → kind (.nullInPath p)) :
    FailsOnly kind (pathBelow base ls) := by
  refine failsOnly_pathFrom hbase ?_ fun hin => hnull ((mem_below_iff (by decide)).mp hin)
  rintro ⟨l, hl, hnameless⟩
  exact hhalf ⟨l, (mem_below_iff (Letter.isUnnamed_of_isNameless hnameless)).mp hl, hnameless⟩

theorem named_of_pathBelow (hbase : base.hasNull = false) (h : pathBelow base ls = .ok p) :
    ∀ l ∈ ls, l.isUnnamed = false := by
  intro l hl
  refine eq_false_of_ne_true fun hunnamed => ?_
  rw [named_of_pathFrom hbase h l ((mem_below_iff hunnamed).mpr hl)] at hunnamed
  cases hunnamed

theorem failsOnly_pathsBelow (h : ∀ ls ∈ texts, FailsOnly kind (pathBelow base ls)) :
    FailsOnly kind (pathsBelow base texts) := by
  induction texts with
  | nil => exact failsOnly_ok _
  | cons ls rest ih =>
    obtain ⟨hfirst, hrest⟩ := List.forall_mem_cons.mp h
    exact hfirst.bind fun _ _ => (ih hrest).bind fun _ _ => failsOnly_ok _

theorem named_of_pathsBelow (hbase : base.hasNull = false)
    (h : pathsBelow base texts = .ok paths) : ∀ ls ∈ texts, ∀ l ∈ ls, l.isUnnamed = false := by
  induction texts generalizing paths with
  | nil => simp
  | cons ls rest ih =>
    unfold pathsBelow at h
    obtain ⟨p, hp, h⟩ := bind_eq_ok h
    obtain ⟨others, hothers, -⟩ := bind_eq_ok h
    exact List.forall_mem_cons.mpr ⟨named_of_pathBelow hbase hp, ih hothers⟩

end Below

/-! ## Unfit options -/

/-- The texts of options that are read as paths. -/
def Options.pathTexts (options : Options) : List (List Letter) :=
  ["basePath", "mainAppPath", "globalReducersOutputPath", "reducerMapOutputPath"].map
      (fun name => (options.value name).asText) ++
    ["containerPaths", "reduxPaths"].flatMap fun name => (options.value name).items

/-- **Options that make no settings, although none is missing**, and the failure that no user is
told of. -/
inductive Options.Unfit (characters : CharacterNames) (options : Options) : Failure → Prop
  /-- The ignore pattern is given and is no text. -/
  | patternNotText (given : (options.value "ignorePaths").isTrue = true)
    (other : (options.value "ignorePaths").patternReading? characters = none) :
    Unfit characters options .patternNotText
  /-- The ignore pattern is refused for another reason than that it is malformed: two of its flags
  exclude each other, or a number in it is too large or has too many digits. -/
  | pattern {text : String} {onBytes : Bool} {fault : Pattern.Fault}
    (given : (options.value "ignorePaths").isTrue = true)
    (read : (options.value "ignorePaths").patternReading? characters =
      some (text, onBytes, .error fault)) (other : fault ≠ .malformed) :
    Unfit characters options (fault.failure text)
  /-- A value that is to be written out has a number with too many digits. -/
  | numeral {name : String} (written : name ∈ writtenOut)
    (long : (options.value name).hasText = false) : Unfit characters options .longNumeral
  /-- A path holds half of a character. -/
  | half {ls : List Letter} {l : Letter} (read : ls ∈ options.pathTexts) (held : l ∈ ls)
    (nameless : l.isNameless = true) : Unfit characters options .halfInPath
  /-- A path holds the null character. -/
  | path {ls : List Letter} {p : Path} (read : ls ∈ options.pathTexts)
    (null : .char '\x00' ∈ ls) (held : p.hasNull = true) :
    Unfit characters options (.nullInPath p)

/-- No user is told of unfit options. -/
theorem Options.Unfit.ne_report {characters : CharacterNames} {options : Options}
    {failure : Failure} (h : options.Unfit characters failure) (report : Report) :
    failure ≠ .report report := by
  cases h with
  | @pattern text onBytes fault given read other =>
    cases fault with
    | malformed => exact absurd rfl other
    | _ => simp [Pattern.Fault.failure]
  | _ => simp

section Kinds

variable {α : Type} {kind : Failure → Prop} {characters : CharacterNames} {options : Options}
  {project : Path} {v : Value}

theorem Value.failsOnly_optionText_bind {f : List Letter → Except Failure α}
    (hlong : v.hasText = false → kind .longNumeral) (hf : FailsOnly kind (f v.asText)) :
    FailsOnly kind (v.optionText >>= f) := by
  unfold optionText
  split_ifs with htext
  · exact hf
  · exact failsOnly_error (hlong (eq_false_of_ne_true htext))

theorem Value.failsOnly_optionItems_bind {f : List (List Letter) → Except Failure α}
    (hlong : v.hasText = false → kind .longNumeral) (hf : FailsOnly kind (f v.items)) :
    FailsOnly kind (v.optionItems >>= f) := by
  unfold optionItems
  split_ifs with htext
  · exact hf
  · exact failsOnly_error (hlong (eq_false_of_ne_true htext))

theorem Options.failsOnly_ignoreRule (hreport : ∀ detail, kind (.report ⟨.badPattern, detail, []⟩))
    (hunfit : ∀ failure, options.Unfit characters failure → kind failure) :
    FailsOnly kind (IgnoreRule.ofValue characters (options.value "ignorePaths")) := by
  unfold IgnoreRule.ofValue
  split_ifs with hgiven
  · exact failsOnly_ok _
  have hgiven' : (options.value "ignorePaths").isTrue = true := by simpa using hgiven
  split
  · next hother => exact failsOnly_error (hunfit _ (.patternNotText hgiven' hother))
  · next text onBytes fault hread =>
    refine failsOnly_error ?_
    by_cases hmalformed : fault = .malformed
    · rw [hmalformed]
      exact hreport _
    · exact hunfit _ (.pattern hgiven' hread hmalformed)
  · exact failsOnly_ok _

/-- **Settings fail as one of their stages does**: for want of an option, or with the pattern, with
a value that is to be written out, with the base folder or with a path below it. -/
theorem Settings.failsOnly_stages
    (hrequired : ∀ name, options.missing? = some name → kind (.report (missingReport name)))
    (hignore : options.missing? = none →
      FailsOnly kind (IgnoreRule.ofValue characters (options.value "ignorePaths")))
    (hlong : options.missing? = none →
      ∀ name ∈ Options.writtenOut, (options.value name).hasText = false → kind .longNumeral)
    (hbase : options.missing? = none →
      FailsOnly kind (pathFrom project (trimLetters (options.value "basePath").asText)))
    (hbelow : options.missing? = none → ∀ ls ∈ options.pathTexts, ∀ base : Path,
      base.hasNull = false → FailsOnly kind (pathBelow base ls)) :
    FailsOnly kind (Settings.ofOptions characters options project) := by
  unfold Settings.ofOptions
  cases hmissing : options.missing? with
  | some name => exact failsOnly_error (hrequired name hmissing)
  | none =>
    replace hlong := hlong hmissing
    replace hbelow := hbelow hmissing
    simp only
    refine (hignore hmissing).bind fun ignore _ => ?_
    refine Value.failsOnly_optionText_bind (hlong _ (by decide)) ?_
    refine (hbase hmissing).bind fun base hresolve => ?_
    have hnull := (resolved_of_pathFrom hresolve).not_null
    refine Value.failsOnly_optionItems_bind (hlong _ (by decide)) ?_
    refine Value.failsOnly_optionText_bind (hlong _ (by decide)) ?_
    refine (hbelow _ ?_ base hnull).bind fun _ _ => ?_
    · simp [Options.pathTexts]
    refine Value.failsOnly_optionItems_bind (hlong _ (by decide)) ?_
    refine (failsOnly_pathsBelow fun text htext => hbelow text ?_ base hnull).bind fun _ _ => ?_
    · simp [Options.pathTexts, htext]
    refine Value.failsOnly_optionItems_bind (hlong _ (by decide)) ?_
    refine (failsOnly_pathsBelow fun text htext => hbelow text ?_ base hnull).bind fun _ _ => ?_
    · simp [Options.pathTexts, htext]
    refine Value.failsOnly_optionText_bind (hlong _ (by decide)) ?_
    refine (hbelow _ ?_ base hnull).bind fun _ _ => ?_
    · simp [Options.pathTexts]
    refine Value.failsOnly_optionText_bind (hlong _ (by decide)) ?_
    refine (hbelow _ ?_ base hnull).bind fun _ _ => ?_
    · simp [Options.pathTexts]
    by_cases hlacks : options.lacks "sagaFilename" = true
    · rw [if_pos hlacks]
      exact failsOnly_ok _
    · rw [if_neg hlacks]
      exact Value.failsOnly_optionText_bind (hlong "sagaFilename" (by decide)) (failsOnly_ok _)

end Kinds

section MadeFrom

variable {characters : CharacterNames} {options : Options} {project : Path} {settings : Settings}

theorem Settings.MadeFrom.named (h : settings.MadeFrom characters options project)
    (hproject : project.hasNull = false) :
    ∀ ls ∈ options.pathTexts, ∀ l ∈ ls, l.isUnnamed = false := by
  have hbase := (resolved_of_pathFrom h.base).not_null
  have hproject' : ∀ l ∈ (options.value "basePath").asText, l.isUnnamed = false := by
    intro l hl
    refine eq_false_of_ne_true fun hunnamed => ?_
    rw [named_of_pathFrom hproject h.base l ((mem_trimLetters_iff hunnamed).mpr hl)] at hunnamed
    cases hunnamed
  have hmain := named_of_pathBelow hbase h.mainApp
  have hglobals := named_of_pathBelow hbase h.globalsOutput
  have hmap := named_of_pathBelow hbase h.mapOutput
  have hcontainers := named_of_pathsBelow hbase h.containerFolders
  have hreducers := named_of_pathsBelow hbase h.reducerFolders
  intro ls hls
  simp only [Options.pathTexts, List.map_cons, List.map_nil, List.flatMap_cons, List.flatMap_nil,
    List.append_nil, List.mem_append, List.mem_cons, List.not_mem_nil, or_false] at hls
  obtain (rfl | rfl | rfl | rfl) | hls | hls := hls
  · exact hproject'
  · exact hmain
  · exact hglobals
  · exact hmap
  · exact hcontainers ls hls
  · exact hreducers ls hls

end MadeFrom

end ReducerAtlas
