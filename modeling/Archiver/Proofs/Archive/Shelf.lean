import Mathlib.Data.List.Nodup
import Archiver.Proofs.Archive.Places
import Archiver.Proofs.Storage.FileLaws
import Archiver.Proofs.Text.Utf8

namespace Archiver

/-- An article as it was put into the archive. -/
structure Article where
  extraction : Extraction
  captured : Timestamp

def Article.url (a : Article) : CanonicalUrl := a.extraction.url

def Article.place (a : Article) (root : String) : Path := a.extraction.place root a.captured

def Article.bytes (a : Article) : List UInt8 := encodeUtf8 (renderDocument a.extraction a.captured)

/-- Files that come from others by putting articles into the archive, one after the other, where some
others found no place. -/
inductive Files.Takes (root : String) (f : Files) : List Article → List Article → Files → Prop where
  | nil : Takes root f [] [] f
  | snoc {articles lost : List Article} {g h : Files} {a : Article}
      (before : Takes root f articles lost g)
      (archived : g.archive root a.extraction a.captured = .ok h) :
      Takes root f (articles ++ [a]) lost h
  | lose {articles lost : List Article} {g : Files} {a : Article} {cause : ArchiveError}
      (before : Takes root f articles lost g)
      (failed : g.archive root a.extraction a.captured = .error cause) :
      Takes root f articles (lost ++ [a]) cause.left

variable {root : String} {f g : Files} {q : Path}

/-- Putting an article in its place is replacing the file there. -/
theorem archive_eq (f : Files) (root : String) (a : Article) :
    f.archive root a.extraction a.captured = (f.replace (a.place root) a.bytes).mapError
      fun left => ⟨archivePath root a.extraction a.captured, left⟩ := by
  simp only [Files.archive, Article.place, Extraction.place, Article.bytes]

theorem bytes_archive {a : Article} (h : f.archive root a.extraction a.captured = .ok g) :
    g.bytes? q = if q = a.place root then some a.bytes
      else if q = (a.place root).temporary then none else f.bytes? q := by
  rw [archive_eq] at h
  exact bytes_replace (ok_of_mapError h)

/-- An article that finds no place leaves every file as it is, unless it is left itself under its
temporary name. -/
theorem left_archive {a : Article} {cause : ArchiveError}
    (h : f.archive root a.extraction a.captured = .error cause) :
    cause.left.bytes? q = f.bytes? q ∨
      q = (a.place root).temporary ∧ cause.left.bytes? q = some a.bytes := by
  rw [archive_eq] at h
  cases hreplace : f.replace (a.place root) a.bytes with
  | ok g =>
    rw [hreplace] at h
    cases h
  | error left =>
    rw [hreplace] at h
    cases h
    exact left_replace hreplace

/-- No file lies below the directory. -/
def Files.IsEmptyBelow (f : Files) (root : String) : Prop :=
  ∀ q, Path.ofText root <+: q → f.bytes? q = none

/-- The article that was put last to a place. -/
def lastAt (root : String) (q : Path) (articles : List Article) : Option Article :=
  (articles.filter fun a => a.place root == q).getLast?

theorem lastAt_concat (articles : List Article) (a : Article) :
    lastAt root q (articles ++ [a]) =
      if q = a.place root then some a else lastAt root q articles := by
  unfold lastAt
  rw [List.filter_append, List.filter_singleton]
  split
  · next hq => simp [hq]
  · next hq =>
    have hne : (a.place root == q) = false := by simpa using fun h => hq h.symm
    simp [hne]

theorem mem_of_lastAt {articles : List Article} {a : Article}
    (h : lastAt root q articles = some a) : a ∈ articles ∧ a.place root = q := by
  have hmem := List.mem_filter.mp (List.mem_of_getLast? h)
  exact ⟨hmem.1, by simpa using hmem.2⟩

theorem lastAt_temporary (articles : List Article) (a : Article) :
    lastAt root (a.place root).temporary articles = none := by
  cases hl : lastAt root (a.place root).temporary articles with
  | none => rfl
  | some b => exact absurd (mem_of_lastAt hl).2 (place_ne_temporary _ _ _ _ _)

/-- In an archive that began empty each file is the article that was put last to its place, or one
that found no place, under its temporary name. -/
theorem bytes_of_takes {articles lost : List Article} (hf : f.IsEmptyBelow root)
    (h : f.Takes root articles lost g) (hq : Path.ofText root <+: q) :
    g.bytes? q = (lastAt root q articles).map Article.bytes ∨
      ∃ a ∈ lost, q = (a.place root).temporary ∧ g.bytes? q = some a.bytes := by
  induction h with
  | nil => exact Or.inl (hf q hq)
  | snoc before archived ih =>
    rw [bytes_archive archived, lastAt_concat]
    split
    · exact Or.inl rfl
    split
    · next htemp =>
      rw [htemp, lastAt_temporary]
      exact Or.inl rfl
    · exact ih
  | lose before failed ih =>
    rcases left_archive (q := q) failed with hsame | hleft
    · rw [hsame]
      refine ih.imp_right fun ⟨a, ha, hrest⟩ => ⟨a, List.mem_append_left _ ha, hrest⟩
    · exact Or.inr ⟨_, List.mem_append_right _ (List.mem_singleton_self _), hleft⟩

/-- A file with the document of an article of that URL and that text. -/
def IsArticleFile (bytes : List UInt8) (url : CanonicalUrl) (markdown : List Char) : Prop :=
  ∃ (e : Extraction) (captured : Timestamp), e.url = url ∧ e.markdown = markdown ∧
    bytes = encodeUtf8 (renderDocument e captured)

/-- True if a file below the directory has the URL and the text of an article. -/
def Files.Holds (f : Files) (root : String) (a : Article) : Prop :=
  ∃ q bytes, Path.ofText root <+: q ∧ f.bytes? q = some bytes ∧
    IsArticleFile bytes a.url a.extraction.markdown

/-- A document begins with the rule and the line that names its source. -/
theorem renderDocument_eq (e : Extraction) (captured : Timestamp) :
    ∃ rest, renderDocument e captured =
      rule ++ "source_url: ".toList ++ (e.url.text.toList ++ '\n' :: rest) := by
  simp only [renderDocument, frontMatter, List.flatMap_cons, List.append_assoc, List.cons_append,
    List.nil_append]
  exact ⟨_, rfl⟩

theorem line_inj {s t u v : List Char} (hs : '\n' ∉ s) (ht : '\n' ∉ t)
    (h : s ++ '\n' :: u = t ++ '\n' :: v) : s = t := by
  induction s generalizing t with
  | nil =>
    cases t with
    | nil => rfl
    | cons d t =>
      cases h
      exact absurd List.mem_cons_self ht
  | cons c s ih =>
    cases t with
    | nil =>
      cases h
      exact absurd List.mem_cons_self hs
    | cons d t =>
      obtain ⟨rfl, hrest⟩ := List.cons.inj h
      rw [ih (fun hc => hs (List.mem_cons_of_mem c hc)) (fun hc => ht (List.mem_cons_of_mem c hc))
        hrest]

/-- The text of a URL is one line. -/
def CanonicalUrl.IsLine (url : CanonicalUrl) : Prop := '\n' ∉ url.text.toList

instance (url : CanonicalUrl) : Decidable url.IsLine :=
  inferInstanceAs (Decidable ('\n' ∉ url.text.toList))

theorem url_eq {u v : CanonicalUrl} (h : u.text = v.text) : u = v := by
  cases u
  cases v
  cases h
  rfl

/-- A document names one source. -/
theorem url_of_renderDocument {e e' : Extraction} {t t' : Timestamp} (he : e.url.IsLine)
    (he' : e'.url.IsLine) (h : renderDocument e t = renderDocument e' t') : e.url = e'.url := by
  obtain ⟨u, hu⟩ := renderDocument_eq e t
  obtain ⟨v, hv⟩ := renderDocument_eq e' t'
  rw [hu, hv] at h
  have htext := line_inj he he' (List.append_cancel_left h)
  exact url_eq (String.toList_inj.mp htext)

/-- Of articles with distinct URLs, the files of an archive that began empty hold just those that
were put last to their places. -/
theorem holds_iff {articles lost : List Article} {a : Article} (hf : f.IsEmptyBelow root)
    (h : f.Takes root articles lost g) (hn : ((articles ++ lost).map Article.url).Nodup)
    (hl : ∀ b ∈ articles ++ lost, b.url.IsLine) (ha : a ∈ articles) :
    g.Holds root a ↔ lastAt root (a.place root) articles = some a := by
  -- a file with the text of the article is the document of no other
  have hsole : ∀ b ∈ articles ++ lost, ∀ bytes, b.bytes = bytes →
      IsArticleFile bytes a.url a.extraction.markdown → b = a := by
    rintro b hb bytes hsame ⟨e, captured, hurl, hmarkdown, rfl⟩
    have hmem : a ∈ articles ++ lost := List.mem_append_left _ ha
    have hline : e.url.IsLine := hurl ▸ hl a hmem
    have hurls : b.url = e.url := url_of_renderDocument (hl b hb) hline (encodeUtf8_injective hsame)
    exact List.inj_on_of_nodup_map hn hb hmem (hurls.trans hurl)
  constructor
  · rintro ⟨q, bytes, hq, hbytes, hfile⟩
    rcases bytes_of_takes hf h hq with hlast | ⟨b, hb, -, hleft⟩
    · rw [hlast] at hbytes
      obtain ⟨b, hb, hsame⟩ := Option.map_eq_some_iff.mp hbytes
      obtain ⟨hmem, rfl⟩ := mem_of_lastAt hb
      rwa [hsole b (List.mem_append_left _ hmem) bytes hsame hfile] at hb
    · have hba := hsole b (List.mem_append_right _ hb) bytes
        (Option.some.inj (hleft.symm.trans hbytes)) hfile
      rw [List.map_append] at hn
      exact absurd (hba ▸ List.mem_map_of_mem hb)
        ((List.nodup_append.mp hn).2.2 a.url (List.mem_map_of_mem ha) a.url · rfl)
  · intro hlast
    have hq : Path.ofText root <+: a.place root := root_below_place a.extraction root a.captured
    refine ⟨a.place root, a.bytes, hq, ?_, a.extraction, a.captured, rfl, rfl, rfl⟩
    rcases bytes_of_takes hf h hq with hbytes | ⟨b, -, htemp, -⟩
    · rw [hbytes, hlast]
      rfl
    · exact absurd htemp (place_ne_temporary _ _ _ _ _)

theorem lastAt_eq_some {articles : List Article} (h : (articles.map (·.place root)).Nodup)
    {a : Article} (ha : a ∈ articles) : lastAt root (a.place root) articles = some a := by
  cases hl : lastAt root (a.place root) articles with
  | none =>
    rw [lastAt, List.getLast?_eq_none_iff, List.filter_eq_nil_iff] at hl
    exact absurd (by simp) (hl a ha)
  | some b =>
    obtain ⟨hmem, hplace⟩ := mem_of_lastAt hl
    rw [List.inj_on_of_nodup_map h hmem ha hplace]

/-- All articles are last at their places where no two places are the same. -/
theorem forall_lastAt_iff {articles : List Article} (hn : articles.Nodup) :
    (∀ a ∈ articles, lastAt root (a.place root) articles = some a) ↔
      (articles.map (·.place root)).Nodup := by
  constructor
  · intro h
    refine hn.map_on ?_
    intro a ha b hb hplace
    have hlast := h a ha
    rw [hplace, h b hb] at hlast
    exact (Option.some.inj hlast).symm
  · intro h a ha
    exact lastAt_eq_some h ha

end Archiver
