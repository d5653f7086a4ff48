import ReducerAtlas.Proofs.References
import ReducerAtlas.Proofs.Statements

/-!
# Reading loaders

A loader holds the reference of a file between two apostrophes, as it is. Its first quoted text ends
at the first apostrophe behind the opening one, so it is the reference unless a name on the way to
the file has an apostrophe of its own.

* `Source.firstQuoted?`: the first quoted text of a text, with what follows it.
* `Artifact.exists_mem_of_mem_moduleReference`: where the characters of a reference come from.
* **`Artifact.firstQuoted?_loader`**: what is read from a loader.
-/

namespace ReducerAtlas

namespace Source

/-- The content of the first quoted text, and what follows its closing quote. -/
def firstQuoted? : List Char → Option (List Char × List Char)
  | [] => none
  | c :: cs =>
    match quotedText? (c :: cs) with
    | some (_, content) => some (content, cs.drop (content.length + 1))
    | none => firstQuoted? cs

theorem firstQuoted?_text (q : Quotation) (rest : List Char) :
    firstQuoted? (q.text ++ rest) = some (q.content, rest) := by
  have hquoted := quotedText?_append q rest
  have hbehind : (q.content ++ [q.quote] ++ rest).drop (q.content.length + 1) = rest :=
    List.drop_left' (by simp)
  rw [Quotation.text, List.cons_append] at hquoted ⊢
  rw [firstQuoted?, hquoted]
  simp only [hbehind]

theorem firstQuoted?_append_of_unquoted {front : List Char}
    (h : ∀ c ∈ front, isUnquoted c = true) (rest : List Char) :
    firstQuoted? (front ++ rest) = firstQuoted? rest := by
  induction front with
  | nil => rfl
  | cons c front ih =>
    obtain ⟨hc, hfront⟩ := List.forall_mem_cons.mp h
    rw [List.cons_append, firstQuoted?, quotedText?_of_unquoted hc]
    exact ih hfront

/-- What is put between apostrophes as it stands is read up to the first apostrophe. -/
theorem firstQuoted?_pasted {front name back : String} {lead pre post : List Char}
    (hopen : front.toList = lead ++ ['\x27']) (hlead : ∀ c ∈ lead, isUnquoted c = true)
    (h : name.toList ++ back.toList = pre ++ '\x27' :: post)
    (hpre : ∀ c ∈ pre, c ≠ '\x27' ∧ c ≠ '\n') :
    firstQuoted? (front ++ name ++ back).toList = some (pre, post) := by
  let q : Quotation := ⟨'\x27', pre, .inl rfl, hpre⟩
  have htext : (front ++ name ++ back).toList = lead ++ (q.text ++ post) := by
    rw [String.append_assoc, String.toList_append, String.toList_append, h, hopen]
    simp [q, Quotation.text]
  rw [htext, firstQuoted?_append_of_unquoted hlead, firstQuoted?_text]

end Source

theorem Path.exists_mem_of_mem_render {p : Path} {c : Char} (hdot : c ≠ '.') (hslash : c ≠ '/')
    (h : c ∈ p.render.toList) : ∃ n ∈ p.parts, c ∈ n.toList := by
  unfold render at h
  split_ifs at h
  · exact absurd (by simpa using h) hdot
  rw [String.toList_append, List.mem_append] at h
  obtain h | h := h
  · cases hanchor : p.anchor <;> simp [hanchor, Anchor.render, hslash] at h
  · exact (mem_joinWith h).resolve_left hslash

namespace Artifact

open ReducerAtlas.Source

variable {target folder : Path} {c : Char}

/-- Besides dots and slashes, a reference holds what the names of its file hold. -/
theorem exists_mem_of_mem_moduleReference (hdot : c ≠ '.') (hslash : c ≠ '/')
    (h : c ∈ (moduleReference target folder).toList) : ∃ n ∈ target.parts, c ∈ n.toList := by
  obtain h | h | h := mem_moduleReference h
  · exact absurd h hdot
  · exact absurd h hslash
  · exact Path.exists_mem_of_mem_render hdot hslash h

theorem firstQuoted?_loader_of_eq {reference : String} {pre post : List Char}
    (h : reference.toList ++ "'); \x7d".toList = pre ++ '\x27' :: post)
    (hpre : ∀ d ∈ pre, d ≠ '\x27' ∧ d ≠ '\n') :
    firstQuoted? (loader reference).toList = some (pre, post) := by
  have hopen : "function() \x7b return System.import('".toList =
      "function() \x7b return System.import(".toList ++ ['\x27'] := by decide
  exact firstQuoted?_pasted hopen (List.all_eq_true.mp (by decide)) h hpre

/-- **What is read from the loader of a file** without line ends in its names. The first quoted text
is the reference, with nothing but the end of the call behind it, exactly if the reference holds no
apostrophe. Otherwise it ends at the first apostrophe, and the rest of the reference follows. An
apostrophe in a reference is one of a name of the file. -/
theorem firstQuoted?_loader (target folder : Path) (hline : ∀ n ∈ target.parts, '\n' ∉ n.toList) :
    (firstQuoted? (loader (moduleReference target folder)).toList =
        some ((moduleReference target folder).toList, "); \x7d".toList) ↔
      '\x27' ∉ (moduleReference target folder).toList) ∧
    (∀ pre post, (moduleReference target folder).toList = pre ++ '\x27' :: post → '\x27' ∉ pre →
      firstQuoted? (loader (moduleReference target folder)).toList =
        some (pre, post ++ "'); \x7d".toList)) ∧
    ('\x27' ∈ (moduleReference target folder).toList → ∃ n ∈ target.parts, '\x27' ∈ n.toList) := by
  have hplain : ∀ d ∈ (moduleReference target folder).toList, d ≠ '\n' := by
    rintro d hd rfl
    obtain ⟨n, hn, hmem⟩ := exists_mem_of_mem_moduleReference (by decide) (by decide) hd
    exact hline n hn hmem
  have hcut : ∀ pre post, (moduleReference target folder).toList = pre ++ '\x27' :: post →
      '\x27' ∉ pre → firstQuoted? (loader (moduleReference target folder)).toList =
        some (pre, post ++ "'); \x7d".toList) := by
    intro pre post hsplit hpre
    apply firstQuoted?_loader_of_eq
    · rw [hsplit, List.append_assoc, List.cons_append]
    · intro d hd
      exact ⟨fun e => hpre (e ▸ hd), hplain d (hsplit ▸ List.mem_append_left _ hd)⟩
  refine ⟨⟨fun hread hmem => ?_, fun hnone => ?_⟩, hcut,
    exists_mem_of_mem_moduleReference (by decide) (by decide)⟩
  · -- what is read up to an apostrophe is shorter than the reference
    obtain ⟨pre, post, hsplit, hpre⟩ := List.eq_append_cons_of_mem hmem
    rw [hcut pre post hsplit hpre, hsplit, Option.some.injEq, Prod.mk.injEq] at hread
    simpa using hread.1
  · apply firstQuoted?_loader_of_eq
    · rfl
    · exact fun d hd => ⟨fun e => hnone (e ▸ hd), hplain d hd⟩

/-- The apostrophe in the name of a folder ends the text; a double quote does not, nor does an
apostrophe in an extension or in what both paths share. -/
theorem firstQuoted?_loader_apostrophe :
    firstQuoted? (loader (moduleReference (Path.parse "/lib/it's/cart.js")
      (Path.parse "/lib"))).toList = some ("./it".toList, "s/cart'); \x7d".toList) ∧
    firstQuoted? (loader (moduleReference (Path.parse "/it's/a\x22b.j's")
      (Path.parse "/it's/out"))).toList = some ("../a\x22b".toList, "); \x7d".toList) := by
  have hfolder : moduleReference (Path.parse "/lib/it's/cart.js") (Path.parse "/lib") =
      "./it's/cart" := by decide
  have hextension : moduleReference (Path.parse "/it's/a\x22b.j's") (Path.parse "/it's/out") =
      "../a\x22b" := by decide
  have hcut := (firstQuoted?_loader (Path.parse "/lib/it's/cart.js") (Path.parse "/lib")
    (by decide)).2.1
  have hwhole := (firstQuoted?_loader (Path.parse "/it's/a\x22b.j's") (Path.parse "/it's/out")
    (by decide)).1
  rw [hfolder] at hcut ⊢
  rw [hextension] at hwhole ⊢
  exact ⟨hcut "./it".toList "s/cart".toList (by decide) (by decide), hwhole.mpr (by decide)⟩

end Artifact

end ReducerAtlas
