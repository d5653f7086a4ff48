import ReducerAtlas.Command.Standard
import ReducerAtlas.Proofs.Unfit

/-!
# Options that are lists

Three options are lists. A configuration file may give one as a list of texts or as one text with
commas, and both are cut into the same items. Before that, a required option is looked at as it was
given: a blank text does not count, while a list always does. So the two ways differ for a list
that is joined to a blank text, and for no other.

* `Options.value_put`: the values of options after one of them was given.
* `Value.asText_ofLetters`, `Value.isMissing_ofLetters`: the value of a text.
* `Value.items_commaText`: the items of a list and of its text.
* `Settings.ofOptions_congr`: what settings depend on; `Settings.ofOptions_eq_missing_iff`: the
  option that is reported as missing.
* `Options.Unfilled`: a required list that is blank as a text.
* **`Settings.ofOptions_commaText`**: settings of a list and of its text.
-/

namespace ReducerAtlas

open ReducerAtlas.Text

/-! ## Options after one was given -/

variable {characters : CharacterNames} {options other : Options} {name n : String} {v w : Value}
  {project : Path}

namespace Options

theorem value_put (options : Options) (name : String) (v : Value) (n : String) :
    (options.put name v).value n = if n = name then v else options.value n := by
  have hcons : ∀ (m : String) (u : Value) (rest : Options),
      value ((m, u) :: rest) n = if n = m then u else rest.value n := by
    intro m u rest
    by_cases h : n = m
    · simp [value, h]
    · simp [value, List.lookup_cons, h, beq_false_of_ne h]
  induction options with
  | nil => exact hcons name v []
  | cons entry rest ih =>
    obtain ⟨m, u⟩ := entry
    by_cases hm : m = name
    · rw [put, if_pos hm, hcons, hcons, hm]
      split_ifs <;> rfl
    · rw [put, if_neg hm, hcons, hcons, ih]
      split_ifs with hnm hname
      · exact absurd (hnm.symm.trans hname) hm
      all_goals rfl

theorem value_put_self (options : Options) (name : String) (v : Value) :
    (options.put name v).value name = v := by
  rw [value_put, if_pos rfl]

theorem value_put_of_ne (h : n ≠ name) : (options.put name v).value n = options.value n := by
  rw [value_put, if_neg h]

end Options

/-! ## The option that is reported as missing -/

/-- A value that does not count as given: none, or a blank text. -/
def Value.isMissing : Value → Bool
  | .null => true
  | .text s => (trimmed s).isEmpty
  | _ => false

/-- What is found first stays so if one thing that is not it does not count any more. -/
theorem find?_of_ne {p q : String → Bool} {name : String} {l : List String}
    (hsame : ∀ n, n ≠ name → q n = p n) (hq : q name = false) (h : l.find? p ≠ some name) :
    l.find? q = l.find? p := by
  induction l with
  | nil => rfl
  | cons n rest ih =>
    cases hp : p n with
    | true =>
      have hn : n ≠ name := by simpa [hp] using h
      rw [List.find?_cons_of_pos hp, List.find?_cons_of_pos ((hsame n hn).trans hp)]
    | false =>
      have hqn : q n = false := by
        by_cases hn : n = name
        · rw [hn, hq]
        · rw [hsame n hn, hp]
      have hskip : ∀ r : String → Bool, r n = false → (n :: rest).find? r = rest.find? r :=
        fun r hr => List.find?_cons_of_neg (by simp [hr])
      rw [hskip p hp] at h ⊢
      rw [hskip q hqn, ih h]

namespace Options

theorem missing?_eq (options : Options) :
    options.missing? = required.find? fun n => (options.value n).isMissing := rfl

theorem missing?_put_of_ne (hw : w.isMissing = false)
    (h : (options.put name v).missing? ≠ some name) :
    (options.put name w).missing? = (options.put name v).missing? := by
  rw [missing?_eq] at h ⊢
  rw [missing?_eq]
  refine find?_of_ne ?_ ?_ h
  · intro n hn
    rw [value_put_of_ne hn, value_put_of_ne hn]
  · rw [value_put_self, hw]

theorem missing?_put_ne (hv : v.isMissing = false) :
    (options.put name v).missing? ≠ some name := by
  intro h
  rw [missing?_eq] at h
  have hname := List.find?_some h
  rw [value_put_self, hv] at hname
  cases hname

end Options

theorem missingReport_inj (h : missingReport name = missingReport n) : name = n := by
  have hdetail : "-" ++ name = "-" ++ n := congrArg Report.detail h
  rw [← String.toList_inj, String.toList_append, String.toList_append] at hdetail
  exact String.toList_inj.mp (List.append_cancel_left hdetail)

/-- **An option is reported as missing** exactly if it is the first required one that is. -/
theorem Settings.ofOptions_eq_missing_iff :
    Settings.ofOptions characters options project = .error (.report (missingReport name)) ↔
      options.missing? = some name := by
  have hfails : FailsOnly (fun failure => failure = .report (missingReport name) →
      options.missing? = some name) (Settings.ofOptions characters options project) := by
    apply failsOnly_stages
    · intro n hn h
      rw [hn, missingReport_inj (Failure.report.inj h)]
    · intro _
      refine Options.failsOnly_ignoreRule (fun detail h => ?_) ?_
      · cases congrArg Report.condition (Failure.report.inj h)
      · exact fun failure hunfit h => absurd h (hunfit.ne_report _)
    · intro _ _ _ _ h
      cases h
    · intro _
      refine FailsOnly.bind ?_ fun _ _ => Disk.failsOnly_resolve fun _ h => ?_
      · rintro failure hfailure rfl
        cases (pathText_eq_error hfailure).1
      · cases h
    · intro _ ls _ base hbase
      refine failsOnly_pathBelow hbase (fun _ h => ?_) fun _ _ _ h => ?_
      all_goals cases h
  constructor
  · exact fun h => hfails _ h rfl
  · intro h
    simp only [Settings.ofOptions, h]
    rfl

/-! ## The value of a text -/

namespace Text

theorem mapM_char?_eq_some_iff {ls : List Letter} {cs : List Char} :
    ls.mapM Letter.char? = some cs ↔ ls = cs.map .char := by
  induction ls generalizing cs with
  | nil => cases cs <;> simp
  | cons l ls ih =>
    cases l with
    | half n => cases cs <;> simp [List.mapM_cons, Letter.char?]
    | char c =>
      cases cs with
      | nil => cases hls : ls.mapM Letter.char? <;> simp [List.mapM_cons, Letter.char?, hls]
      | cons d cs =>
        simp only [List.mapM_cons, Letter.char?, List.map_cons, List.cons.injEq, ← ih]
        cases ls.mapM Letter.char? <;> simp

theorem stringOf?_eq_some_iff {ls : List Letter} {s : String} :
    stringOf? ls = some s ↔ ls = letters s := by
  simp [stringOf?, mapM_char?_eq_some_iff, letters, String.ofList_eq]

theorem exists_half_of_stringOf? {ls : List Letter} (h : stringOf? ls = none) :
    ∃ n, Letter.half n ∈ ls := by
  replace h : ls.mapM Letter.char? = none := Option.map_eq_none_iff.mp h
  induction ls with
  | nil => cases h
  | cons l ls ih =>
    cases l with
    | half n => exact ⟨n, List.mem_cons_self⟩
    | char c =>
      have hrest : ls.mapM Letter.char? = none := by
        rw [List.mapM_cons, Letter.char?] at h
        cases hls : ls.mapM Letter.char? with
        | none => rfl
        | some cs => simp [hls] at h
      obtain ⟨n, hn⟩ := ih hrest
      exact ⟨n, List.mem_cons_of_mem _ hn⟩

theorem trimLetters_letters (s : String) : trimLetters (letters s) = letters (trimmed s) := by
  simp [trimLetters, letters, trimWith, trimmed, trim, List.dropWhile_map, ← List.map_reverse,
    Function.comp_def, Letter.char?]

end Text

namespace Value

variable {ls : List Letter} {items : List (List Letter)}

@[simp]
theorem asText_ofLetters (ls : List Letter) : (Value.ofLetters ls).asText = ls := by
  unfold ofLetters
  split
  · next s hs => rw [asText, stringOf?_eq_some_iff.mp hs]
  · rfl

@[simp]
theorem hasText_ofLetters (ls : List Letter) : (Value.ofLetters ls).hasText = true := by
  unfold ofLetters
  split <;> rfl

/-- A text with half of a character is not blank. -/
theorem isMissing_ofLetters (ls : List Letter) :
    (Value.ofLetters ls).isMissing = (trimLetters ls).isEmpty := by
  unfold ofLetters
  split
  · next s hs =>
    rw [stringOf?_eq_some_iff.mp hs, trimLetters_letters, isMissing, letters, Bool.eq_iff_iff]
    simp
  · next hs =>
    obtain ⟨n, hn⟩ := exists_half_of_stringOf? hs
    have hmem : Letter.half n ∈ trimLetters ls := (mem_trimWith_iff rfl).mpr hn
    exact (List.isEmpty_eq_false_iff.mpr (List.ne_nil_of_mem hmem)).symm

theorem items_ofLetters (ls : List Letter) : (Value.ofLetters ls).items =
    ((splitBy (· == Letter.char ',') ls).map trimLetters).filter (!·.isEmpty) := by
  have htext := asText_ofLetters ls
  unfold ofLetters at htext ⊢
  split at htext <;> simp only [items, htext]

/-! ## Items -/

/-- The items of a list as one text, with commas between them. -/
def commaText (items : List (List Letter)) : Value :=
  .ofLetters (List.intercalate [.char ','] items)

/-- A list of texts. -/
def ofItems (items : List (List Letter)) : Value :=
  .list (items.map .ofLetters)

theorem hasText_ofItems (items : List (List Letter)) : (ofItems items).hasText = true := by
  rw [ofItems, hasText]
  induction items with
  | nil => rfl
  | cons ls rest ih => rw [List.map_cons, haveText, hasText_ofLetters, ih, Bool.true_and]

theorem items_ofItems (items : List (List Letter)) :
    (ofItems items).items = (items.map trimLetters).filter (!·.isEmpty) := by
  simp [ofItems, Value.items, Function.comp_def]

/-- **The items of a list of texts are those of the text with commas.** No text at all is cut into
one blank piece, which is no item. -/
theorem items_commaText (h : ∀ ls ∈ items, Letter.char ',' ∉ ls) :
    (commaText items).items = (ofItems items).items := by
  rw [items_ofItems, commaText, items_ofLetters]
  cases items with
  | nil => decide
  | cons ls rest => rw [splitBy_intercalate (List.cons_ne_nil ls rest) h]

theorem optionItems_commaText (h : ∀ ls ∈ items, Letter.char ',' ∉ ls) :
    (commaText items).optionItems = (ofItems items).optionItems := by
  rw [optionItems, optionItems, hasText_ofItems, items_commaText h, commaText, hasText_ofLetters]

/-- A text with commas is blank if there is nothing to join, or nothing but a blank. -/
theorem isMissing_commaText :
    (commaText items).isMissing = true ↔ items = [] ∨ ∃ ls, items = [ls] ∧ trimLetters ls = [] := by
  rw [commaText, isMissing_ofLetters, List.isEmpty_iff]
  cases items with
  | nil => simp [trimLetters, trimWith]
  | cons ls rest =>
    cases rest with
    | nil => simp
    | cons next rest =>
      have hcomma : Letter.char ',' ∈
          trimLetters (List.intercalate [.char ','] (ls :: next :: rest)) := by
        refine (mem_trimWith_iff (by decide)).mpr ?_
        simp [List.intercalate_cons_cons]
      have hne := List.ne_nil_of_mem hcomma
      simp only [hne, false_iff, reduceCtorEq, List.cons.injEq, false_or, not_exists, and_false,
        false_and, not_false_iff, implies_true]

end Value

/-! ## Settings of a list and of its text -/

/-- The options that are lists. -/
def Options.lists : List String := ["containerPaths", "reduxPaths", "actionFilenames"]

/-- **What settings depend on**: the first option that is missing, the items of lists, and the
values of the other options. -/
theorem Settings.ofOptions_congr (hmissing : options.missing? = other.missing?)
    (hitems : ∀ n ∈ Options.lists, (options.value n).optionItems = (other.value n).optionItems)
    (hvalue : ∀ n, n ∉ Options.lists → options.value n = other.value n) :
    Settings.ofOptions characters options project =
      Settings.ofOptions characters other project := by
  have hlacks : options.lacks "sagaFilename" = other.lacks "sagaFilename" := by
    rw [Options.lacks, hvalue _ (by decide), Options.lacks]
  simp only [Settings.ofOptions, hmissing, hlacks, hitems "containerPaths" (by decide),
    hitems "reduxPaths" (by decide), hitems "actionFilenames" (by decide),
    hvalue "ignorePaths" (by decide), hvalue "basePath" (by decide),
    hvalue "mainAppPath" (by decide), hvalue "globalReducersOutputPath" (by decide),
    hvalue "reducerMapOutputPath" (by decide), hvalue "sagaFilename" (by decide),
    hvalue "disableCache" (by decide), hvalue "verboseLogging" (by decide)]

theorem Settings.ofOptions_put (hname : name ∈ Options.lists)
    (hmissing : (options.put name v).missing? = (options.put name w).missing?)
    (hitems : v.optionItems = w.optionItems) :
    Settings.ofOptions characters (options.put name v) project =
      Settings.ofOptions characters (options.put name w) project := by
  refine ofOptions_congr hmissing (fun n _ => ?_) fun n hn => ?_
  · rw [Options.value_put, Options.value_put]
    split_ifs
    · exact hitems
    · rfl
  · have hne : n ≠ name := fun e => hn (e ▸ hname)
    rw [Options.value_put_of_ne hne, Options.value_put_of_ne hne]

/-- The option is a required one, all that are asked for before it are given, and the list is blank
when it is joined: it has no items, or a blank one only. -/
structure Options.Unfilled (options : Options) (name : String) (items : List (List Letter)) :
    Prop where
  blank : items = [] ∨ ∃ ls, items = [ls] ∧ trimLetters ls = []
  first : ∃ earlier later, required = earlier ++ name :: later ∧
    ∀ n ∈ earlier, (options.value n).isMissing = false

theorem Options.missing?_commaText_iff {items : List (List Letter)} :
    (options.put name (.commaText items)).missing? = some name ↔
      options.Unfilled name items := by
  have hearlier : ∀ {earlier later : List String}, required = earlier ++ name :: later →
      ∀ n ∈ earlier, n ≠ name := by
    rintro earlier later hsplit n hn rfl
    have hnodup : (earlier ++ n :: later).Nodup := hsplit ▸ (by decide : required.Nodup)
    exact (List.nodup_append.mp hnodup).2.2 n hn n List.mem_cons_self rfl
  rw [missing?_eq, List.find?_eq_some_iff_append, value_put_self, Value.isMissing_commaText]
  constructor
  · rintro ⟨hblank, earlier, later, hsplit, hgiven⟩
    refine ⟨hblank, earlier, later, hsplit, fun n hn => ?_⟩
    have hvalue := hgiven n hn
    rw [value_put_of_ne (hearlier hsplit n hn)] at hvalue
    simpa using hvalue
  · rintro ⟨hblank, earlier, later, hsplit, hgiven⟩
    refine ⟨hblank, earlier, later, hsplit, fun n hn => ?_⟩
    rw [value_put_of_ne (hearlier hsplit n hn), hgiven n hn]
    rfl

/-- **A list and its text make the same settings, or fail alike**, exactly unless the option is
required and the text is blank. Then the text is reported as missing, and the list counts as one
without items, like the text that is a comma. -/
theorem Settings.ofOptions_commaText (characters : CharacterNames) (options : Options)
    (project : Path) (name : String) (hname : name ∈ Options.lists) (items : List (List Letter))
    (hitems : ∀ ls ∈ items, Letter.char ',' ∉ ls) :
    (Settings.ofOptions characters (options.put name (.ofItems items)) project =
        Settings.ofOptions characters (options.put name (.commaText items)) project ↔
      ¬ options.Unfilled name items) ∧
    (options.Unfilled name items →
      Settings.ofOptions characters (options.put name (.commaText items)) project =
        .error (.report (missingReport name)) ∧
      Settings.ofOptions characters (options.put name (.ofItems items)) project =
        Settings.ofOptions characters (options.put name (.text ",")) project) := by
  have hlist : (Value.ofItems items).isMissing = false := rfl
  have hsame := Value.optionItems_commaText hitems
  have htext : options.Unfilled name items →
      Settings.ofOptions characters (options.put name (.commaText items)) project =
        .error (.report (missingReport name)) := fun h =>
    ofOptions_eq_missing_iff.mpr (Options.missing?_commaText_iff.mpr h)
  refine ⟨⟨fun heq h => ?_, fun h => ?_⟩, fun h => ⟨htext h, ?_⟩⟩
  · exact Options.missing?_put_ne hlist (ofOptions_eq_missing_iff.mp (heq.trans (htext h)))
  · have hnot := mt Options.missing?_commaText_iff.mp h
    exact ofOptions_put hname (Options.missing?_put_of_ne hlist hnot) hsame.symm
  · have hcomma : (Value.text ",").isMissing = false := by decide
    have hnone : (Value.ofItems items).items = [] := by
      rw [Value.items_ofItems]
      obtain rfl | ⟨ls, rfl, hls⟩ := h.blank
      · rfl
      · simp [hls]
    refine ofOptions_put hname
      (Options.missing?_put_of_ne hlist (Options.missing?_put_ne hcomma)) ?_
    rw [Value.optionItems, Value.hasText_ofItems, if_pos rfl, hnone]
    decide

/-- Options with all that is required but a folder of containers. -/
def folderlessOptions : Options := [
  ("mainAppPath", .text "app.js"), ("basePath", .text "."), ("reduxPaths", .text "redux"),
  ("globalReducersOutputPath", .text "globals.js"), ("reducerMapOutputPath", .text "map.js")]

/-- The empty list is a value and the empty text is none. For items with blanks, or for an option
that is not required, the two are alike. -/
theorem Settings.ofOptions_folderless :
    let make := fun options => Settings.ofOptions Command.standard.characters options .root
    make (folderlessOptions.put "containerPaths" (.text "")) =
      .error (.report (missingReport "containerPaths")) ∧
    make (folderlessOptions.put "containerPaths" (.list [])) ≠
      make (folderlessOptions.put "containerPaths" (.text "")) ∧
    make (folderlessOptions.put "containerPaths"
        (.list [.text " pages ", .text "", .text "/home"])) =
      make (folderlessOptions.put "containerPaths" (.text " pages ,,/home")) ∧
    make (folderlessOptions.put "actionFilenames" (.list [.text " "])) =
      make (folderlessOptions.put "actionFilenames" (.text " ")) := by
  have hunfilled : folderlessOptions.Unfilled "containerPaths" [] :=
    ⟨.inl rfl, ["mainAppPath", "basePath"], _, rfl, by decide⟩
  have hfilled : ¬ folderlessOptions.Unfilled "containerPaths"
      [letters " pages ", letters "", letters "/home"] := by
    intro h
    simpa using h.blank
  have hoptional : ¬ folderlessOptions.Unfilled "actionFilenames" [letters " "] := by
    rintro ⟨-, earlier, later, hsplit, -⟩
    have hmem : "actionFilenames" ∈ Options.required := hsplit ▸ by simp
    exact absurd hmem (by decide)
  have hempty := ofOptions_commaText Command.standard.characters folderlessOptions .root
    "containerPaths" (by decide) [] (by simp)
  have hitems := ofOptions_commaText Command.standard.characters folderlessOptions .root
    "containerPaths" (by decide) [letters " pages ", letters "", letters "/home"] (by decide)
  have hblank := ofOptions_commaText Command.standard.characters folderlessOptions .root
    "actionFilenames" (by decide) [letters " "] (by decide)
  exact ⟨(hempty.2 hunfilled).1, fun h => hempty.1.mp h hunfilled, hitems.1.mpr hfilled,
    hblank.1.mpr hoptional⟩

end ReducerAtlas
