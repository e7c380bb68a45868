import Archiver.Discovery.Locations
import Archiver.Proofs.Archive.Shelf
import Archiver.Proofs.Json.Strings
import Archiver.Proofs.Page.SilentText
import Archiver.Proofs.Text.Lines
import Archiver.Proofs.Time.TimeChars
import Archiver.Proofs.Url.CanonicalForm

namespace Archiver

/-- A document as a reader of its lines finds it: the named values of its front matter, and its
text. -/
structure ReadDocument where
  fields : List (List Char × List Char)
  body : List Char
deriving DecidableEq

def ruleLine : List Char := "---".toList

/-- The line of a field: its name, a colon, a space and its value. -/
def fieldLine (field : List Char × List Char) : List Char := field.1 ++ ": ".toList ++ field.2

/-- Reads fields, each from a line of its own, up to the next rule. -/
def readFields? : List (List Char) → Option (List (List Char × List Char) × List (List Char))
  | [] => none
  | line :: rest =>
    if line = ruleLine then some ([], rest)
    else
      match splitAtText ": ".toList line, readFields? rest with
      | some field, some (fields, rest) => some (field :: fields, rest)
      | _, _ => none

/-- Reads a document that begins with a rule: fields up to the next rule, an empty line, and a text
with a line end behind it. -/
def readDocument? (s : List Char) : Option ReadDocument :=
  match splitAll (· == '\n') s with
  | [] => none
  | first :: rest =>
    if first = ruleLine then
      match readFields? rest with
      | some (fields, [] :: text) =>
        let text := ['\n'].intercalate text
        if text.getLast? = some '\n' then some ⟨fields, text.dropLast⟩ else none
      | _ => none
    else none

/-- The lines of a document up to its text. -/
def ReadDocument.heading (d : ReadDocument) : List (List Char) :=
  ruleLine :: (d.fields.map fieldLine ++ [ruleLine, []])

/-- The text of a document that reads as this one. -/
def ReadDocument.written (d : ReadDocument) : List Char :=
  d.heading.flatMap (· ++ ['\n']) ++ (d.body ++ ['\n'])

/-- The names of the fields of an article, in their order. -/
def fieldNames : List (List Char) :=
  ["source_url", "captured_at", "title", "category", "is_premium", "publish_date",
    "conversion_method", "file_hash"].map String.toList

/-- The values of the fields of an article, in the order of their names. -/
def Extraction.fieldValues (e : Extraction) (captured : Timestamp) : List (List Char) :=
  [e.url.text.toList, captured.millisText, quotedText e.title,
    quotedText (e.metadata.category.getD "unknown".toList),
    (if e.metadata.isPremium then "true" else "false").toList,
    e.metadata.publishDate.getD "null".toList, (e.stage.elim "none" Stage.name).toList,
    contentHash e.markdown]

def Extraction.fields (e : Extraction) (captured : Timestamp) : List (List Char × List Char) :=
  fieldNames.zip (e.fieldValues captured)

/-- The document of an article reads as fields of the eight names and the article's text, and the
last field is the hash of the text that was read. -/
def Extraction.IsFramed (e : Extraction) (captured : Timestamp) : Prop :=
  ∃ d, readDocument? (renderDocument e captured) = some d ∧ d.fields.map Prod.fst = fieldNames ∧
    d.body = e.markdown ∧ d.fields.getLast? = some ("file_hash".toList, contentHash d.body)

section Reading

theorem splitAtText_append {c d : Char} {name : List Char} (h : c ∉ name) (value : List Char) :
    splitAtText [c, d] (name ++ c :: d :: value) = some (name, value) := by
  induction name with
  | nil => simp [splitAtText, after?]
  | cons b name ih =>
    have hb : c ≠ b := fun he => h (he ▸ List.mem_cons_self)
    rw [List.cons_append, splitAtText, after?, if_neg hb]
    simp [ih fun hc => h (List.mem_cons_of_mem b hc)]

theorem eq_of_splitAtText {part s : List Char} {parts : List Char × List Char}
    (h : splitAtText part s = some parts) : s = parts.1 ++ part ++ parts.2 := by
  induction s generalizing parts with
  | nil =>
    simp only [splitAtText, List.isEmpty_iff] at h
    split at h
    · next hpart => cases h; simp [hpart]
    · cases h
  | cons c s ih =>
    rw [splitAtText] at h
    split at h
    · next rest hrest =>
      cases h
      exact after_eq_some_iff.mp hrest
    · obtain ⟨inner, hinner, rfl⟩ := Option.map_eq_some_iff.mp h
      rw [List.cons_append, List.cons_append, ← ih hinner]

/-- Lines in front of a text are split off it. -/
theorem splitAll_flatMap_line {lines : List (List Char)} (h : ∀ line ∈ lines, '\n' ∉ line)
    (s : List Char) : splitAll (· == '\n') (lines.flatMap (· ++ ['\n']) ++ s) =
      lines ++ splitAll (· == '\n') s := by
  induction lines with
  | nil => rfl
  | cons line lines ih =>
    rw [List.flatMap_cons, List.append_assoc, List.append_assoc, List.singleton_append,
      splitAll_append_sep (by decide), splitAll_line (h line List.mem_cons_self),
      ih fun l hl => h l (List.mem_cons_of_mem line hl)]
    rfl

variable {fields : List (List Char × List Char)}

theorem readFields_lines (h : ∀ f ∈ fields, ':' ∉ f.1) (rest : List (List Char)) :
    readFields? (fields.map fieldLine ++ ruleLine :: rest) = some (fields, rest) := by
  induction fields with
  | nil => rw [List.map_nil, List.nil_append, readFields?, if_pos rfl]
  | cons f fields ih =>
    have hrule : fieldLine f ≠ ruleLine := fun he => by
      have hcolon : ':' ∈ fieldLine f := by simp [fieldLine]
      exact absurd (he ▸ hcolon) (by decide)
    have hfield : splitAtText ": ".toList (fieldLine f) = some f := by
      rw [fieldLine, List.append_assoc]
      exact splitAtText_append (h f List.mem_cons_self) f.2
    rw [List.map_cons, List.cons_append, readFields?, if_neg hrule, hfield,
      ih fun g hg => h g (List.mem_cons_of_mem f hg)]

theorem eq_of_readFields {lines rest : List (List Char)}
    (h : readFields? lines = some (fields, rest)) :
    lines = fields.map fieldLine ++ ruleLine :: rest := by
  induction lines generalizing fields with
  | nil => cases h
  | cons line lines ih =>
    rw [readFields?] at h
    split at h
    · next hrule => cases h; rw [hrule]; rfl
    · split at h
      · next f fields' _ hfield hrest =>
        cases h
        rw [ih hrest, List.map_cons, List.cons_append, fieldLine, ← eq_of_splitAtText hfield]
      · cases h

/-- Lines in front of others are joined to them by line ends. -/
theorem intercalate_lines (lines : List (List Char)) {text : List (List Char)} (h : text ≠ []) :
    ['\n'].intercalate (lines ++ text) =
      lines.flatMap (· ++ ['\n']) ++ ['\n'].intercalate text := by
  induction lines with
  | nil => rfl
  | cons line lines ih =>
    obtain ⟨next, rest, hnext⟩ := List.exists_cons_of_ne_nil (l := lines ++ text) (by simp [h])
    rw [List.cons_append, hnext, List.intercalate_cons_cons, ← hnext, ih, List.flatMap_cons,
      List.append_assoc, List.append_assoc, List.append_assoc]

/-- A document of fields that are lines reads as it was written. -/
theorem readDocument_written {d : ReadDocument} (hname : ∀ f ∈ d.fields, ':' ∉ f.1)
    (hline : ∀ f ∈ d.fields, '\n' ∉ fieldLine f) : readDocument? d.written = some d := by
  have hlines : ∀ line ∈ d.heading, '\n' ∉ line := by
    simp only [ReadDocument.heading, List.forall_mem_cons, List.forall_mem_append, List.forall_mem_map]
    exact ⟨by decide, hline, by decide, by decide, fun _ h => nomatch h⟩
  have hsplit : splitAll (· == '\n') d.written = ruleLine :: (d.fields.map fieldLine ++
      ruleLine :: [] :: splitAll (· == '\n') (d.body ++ ['\n'])) := by
    rw [ReadDocument.written, splitAll_flatMap_line hlines, ReadDocument.heading]
    simp
  rw [readDocument?, hsplit]
  simp only [if_true, readFields_lines hname, intercalate_splitAll, List.getLast?_concat,
    List.dropLast_concat]

/-- What is read as a document was written so, each field as a line. -/
theorem written_of_read {s : List Char} {d : ReadDocument} (h : readDocument? s = some d) :
    s = d.written ∧ ∀ f ∈ d.fields, '\n' ∉ fieldLine f := by
  unfold readDocument? at h
  split at h
  · cases h
  next first rest hsplit =>
  split at h
  case isFalse => cases h
  next hfirst =>
  split at h
  case h_2 => cases h
  next fields text hfields =>
  simp only at h
  split at h
  case isFalse => cases h
  next hlast =>
  cases h
  rw [hfirst, eq_of_readFields hfields] at hsplit
  constructor
  · have hne : text ≠ [] := fun he => by
      rw [he] at hlast
      cases hlast
    obtain ⟨body, hbody⟩ := List.getLast?_eq_some_iff.mp hlast
    rw [← intercalate_splitAll '\n' s, hsplit, hbody, List.dropLast_concat, ReadDocument.written,
      ← hbody, ← intercalate_lines _ hne, ReadDocument.heading]
    simp
  · intro f hf hmem
    have hin : fieldLine f ∈ splitAll (· == '\n') s := by
      rw [hsplit]
      exact List.mem_cons_of_mem _ (List.mem_append_left _ (List.mem_map_of_mem hf))
    exact absurd (mem_of_mem_splitAll hin hmem).2 (by decide)

end Reading

section OneLine

theorem newline_not_mem_collapseBlanks (s : List Char) : '\n' ∉ collapseBlanks s := by
  intro h
  rcases mem_of_mem_intercalate h with h | ⟨word, hword, h⟩
  · exact absurd h (by decide)
  · exact absurd (mem_of_mem_splitAll (List.mem_filter.mp hword).1 h).2 (by decide)

theorem newline_not_mem_firstText {d : Document} {wanted : Element → Bool} {text : List Char}
    (h : d.firstText? wanted = some text) : '\n' ∉ text := by
  obtain ⟨p, -, rfl⟩ := List.mem_map.mp (List.mem_of_find?_eq_some h)
  exact newline_not_mem_collapseBlanks _

theorem newline_not_mem_category {d : Document} {category : List Char}
    (h : d.metadata.category = some category) : '\n' ∉ category :=
  @newline_not_mem_firstText d (fun e => e.hasAnyClass ["category", "post-category", "tag"]) category h

theorem newline_not_mem_quotedText {s : List Char} (h : '\n' ∉ s) : '\n' ∉ quotedText s := by
  simp only [quotedText, escapeQuotes, List.mem_cons, List.mem_append, List.mem_flatMap,
    List.not_mem_nil, or_false, not_or, not_exists, not_and]
  refine ⟨by decide, fun c hc hmem => ?_, by decide⟩
  split at hmem
  · exact absurd hmem (by decide)
  · exact h (List.mem_singleton.mp hmem ▸ hc)

theorem newline_not_mem_contentHash (s : List Char) : '\n' ∉ contentHash s := by
  intro h
  obtain ⟨b, -, hb⟩ := List.mem_flatMap.mp (List.mem_of_mem_take h)
  have hsize := b.toNat_lt
  have hhex : isHexDigit '\n' = true := by
    rcases List.mem_cons.mp hb with hb | hb
    · exact hb ▸ isHexDigit_hexDigit (by omega)
    · exact List.mem_singleton.mp hb ▸ isHexDigit_hexDigit (by omega)
  exact absurd hhex (by decide)

end OneLine

section Framing

variable {e : Extraction} {captured : Timestamp}

theorem renderDocument_eq_written (e : Extraction) (captured : Timestamp) :
    renderDocument e captured = ReadDocument.written ⟨e.fields captured, e.markdown⟩ := by
  simp [renderDocument, frontMatter, ReadDocument.written, ReadDocument.heading, Extraction.fields,
    Extraction.fieldValues, fieldNames, fieldLine, rule, ruleLine]

theorem fst_fields (e : Extraction) (captured : Timestamp) :
    (e.fields captured).map Prod.fst = fieldNames := rfl

theorem snd_fields (e : Extraction) (captured : Timestamp) :
    (e.fields captured).map Prod.snd = e.fieldValues captured := rfl

/-- Lines with their ends have as many line ends as there are lines, and those in the lines. -/
theorem count_flatMap_line (lines : List (List Char)) :
    (lines.flatMap (· ++ ['\n'])).count '\n' = lines.length + lines.flatten.count '\n' := by
  induction lines with
  | nil => rfl
  | cons line lines ih =>
    rw [List.flatMap_cons, List.count_append, List.count_append, ih, List.flatten_cons,
      List.count_append, List.count_singleton_self, List.length_cons]
    omega

/-- A document whose fields are lines reads as it was meant. -/
theorem readDocument_renderDocument (h : ∀ f ∈ e.fields captured, '\n' ∉ fieldLine f) :
    readDocument? (renderDocument e captured) = some ⟨e.fields captured, e.markdown⟩ := by
  rw [renderDocument_eq_written]
  refine readDocument_written (fun f hf => ?_) h
  have hname : f.1 ∈ fieldNames := fst_fields e captured ▸ List.mem_map_of_mem hf
  have hcolon : ∀ name ∈ fieldNames, ':' ∉ name := by decide
  exact hcolon f.1 hname

/-- A document is framed just when its fields are lines: a line end too many would be one more line in
front of the text. -/
theorem isFramed_iff_lines :
    e.IsFramed captured ↔ ∀ f ∈ e.fields captured, '\n' ∉ fieldLine f := by
  constructor
  · rintro ⟨d, hread, hnames, hbody, -⟩
    obtain ⟨hwritten, hlines⟩ := written_of_read hread
    rw [renderDocument_eq_written, ReadDocument.written, ReadDocument.written, hbody] at hwritten
    have hcount := congrArg (List.count '\n') (List.append_cancel_right hwritten)
    rw [count_flatMap_line, count_flatMap_line] at hcount
    have hlength : d.fields.length = (e.fields captured).length := by
      rw [← List.length_map (f := Prod.fst), hnames, ← fst_fields e captured, List.length_map]
    have hnone : d.heading.flatten.count '\n' = 0 := by
      rw [List.count_eq_zero]
      intro hmem
      obtain ⟨line, hline, hmem⟩ := List.mem_flatten.mp hmem
      simp only [ReadDocument.heading, List.mem_cons, List.mem_append, List.mem_map,
        List.not_mem_nil, or_false] at hline
      rcases hline with rfl | ⟨f, hf, rfl⟩ | rfl | rfl
      · exact absurd hmem (by decide)
      · exact hlines f hf hmem
      · exact absurd hmem (by decide)
      · exact absurd hmem List.not_mem_nil
    have hsame : (ReadDocument.heading ⟨e.fields captured, e.markdown⟩).flatten.count '\n' = 0 := by
      simp only [ReadDocument.heading, List.length_cons, List.length_append, List.length_map,
        List.length_nil, hlength] at hcount hnone
      simp only [ReadDocument.heading]
      omega
    intro f hf hmem
    refine List.count_eq_zero.mp hsame (List.mem_flatten.mpr ⟨fieldLine f, ?_, hmem⟩)
    exact List.mem_cons_of_mem _ (List.mem_append_left _ (List.mem_map_of_mem hf))
  · intro h
    exact ⟨_, readDocument_renderDocument h, rfl, rfl, rfl⟩

theorem lines_iff_values : (∀ f ∈ e.fields captured, '\n' ∉ fieldLine f) ↔
    ∀ value ∈ e.fieldValues captured, '\n' ∉ value := by
  have hnames : ∀ name ∈ fieldNames, '\n' ∉ name := by decide
  constructor
  · intro h value hvalue
    rw [← snd_fields] at hvalue
    obtain ⟨f, hf, rfl⟩ := List.mem_map.mp hvalue
    exact fun hmem => h f hf (List.mem_append_right _ hmem)
  · intro h f hf hmem
    have hname := hnames f.1 (List.of_mem_zip hf).1
    simp only [fieldLine, List.mem_append] at hmem
    rcases hmem with (hmem | hmem) | hmem
    · exact hname hmem
    · exact absurd hmem (by decide)
    · exact h f.2 (List.of_mem_zip hf).2 hmem

/-- The fields of an article that was taken from a page are lines as far as its date is one. -/
theorem lines_iff_date {url : CanonicalUrl} (hurl : url.IsCanonical) (least : Nat)
    (chain : List Stage) (page : Document) (captured : Timestamp) :
    (∀ f ∈ (extract least chain url page).fields captured, '\n' ∉ fieldLine f) ↔
      ∀ date, page.metadata.publishDate = some date → '\n' ∉ date := by
  have hsource : '\n' ∉ url.text.toList := fun h => absurd (hurl.visible _ h).1 (by decide)
  have htime : '\n' ∉ captured.millisText := fun h =>
    absurd (timeChar_of_mem_millisText h) (by decide)
  have htitle : '\n' ∉ (extract least chain url page).title := by
    rw [Extraction.title, extract_metadata]
    cases h : page.metadata.title with
    | none => decide
    | some title =>
      rcases Option.or_eq_some_iff.mp h with h | ⟨-, h⟩
      · exact newline_not_mem_firstText h
      · exact newline_not_mem_firstText h
  have hcategory : '\n' ∉ page.metadata.category.getD "unknown".toList := by
    cases h : page.metadata.category with
    | none => decide
    | some category => exact newline_not_mem_category h
  have hmethod : ∀ stage : Option Stage, '\n' ∉ (stage.elim "none" Stage.name).toList := by
    rintro (_ | _ | _ | _) <;> decide
  have hpremium : ∀ b : Bool, '\n' ∉ (if b then "true" else "false").toList := by decide
  have hdate : '\n' ∉ page.metadata.publishDate.getD "null".toList ↔
      ∀ date, page.metadata.publishDate = some date → '\n' ∉ date := by
    cases page.metadata.publishDate with
    | none => simp
    | some date => simp
  rw [lines_iff_values, ← hdate]
  simp only [Extraction.fieldValues, List.forall_mem_cons, extract_metadata, extract_url]
  constructor
  · rintro ⟨-, -, -, -, -, h, -⟩
    exact h
  · exact fun h => ⟨hsource, htime, newline_not_mem_quotedText htitle,
      newline_not_mem_quotedText hcategory, hpremium _, h, hmethod _,
      newline_not_mem_contentHash _, fun _ h => nomatch h⟩

end Framing

/-- The document of an article from any page is framed unless the date of the page holds a line end:
then it reads as the eight fields and the article's text, which the last field is the hash of. -/
theorem framed_iff {url : CanonicalUrl} (hurl : url.IsCanonical) (least : Nat) (chain : List Stage)
    (markup : List Char) (captured : Timestamp) :
    ((extract least chain url (parseDocument markup)).IsFramed captured ↔
      ∀ date, (parseDocument markup).metadata.publishDate = some date → '\n' ∉ date) ∧
    ((∀ date, (parseDocument markup).metadata.publishDate = some date → '\n' ∉ date) →
      readDocument? (renderDocument (extract least chain url (parseDocument markup)) captured) =
        some ⟨(extract least chain url (parseDocument markup)).fields captured,
          (extract least chain url (parseDocument markup)).markdown⟩) := by
  have hlines := lines_iff_date hurl least chain (parseDocument markup) captured
  exact ⟨isFramed_iff_lines.trans hlines, fun h => readDocument_renderDocument (hlines.mpr h)⟩

/-- A page whose title has quotes in it and whose date is free. -/
def datedPage (date : String) : List Char :=
  "<h1>A \"new\" bridge</h1><time datetime='".toList ++ date.toList ++
    "'></time><p>The mayor opened the bridge.".toList

def datedArticle (date : String) : Extraction :=
  extract 20 Stage.chain ⟨"https://[::1]/n/5"⟩ (parseDocument (datedPage date))

/-- What that date does to the document: one without a line end leaves it framed, one with a rule in
it does not. -/
theorem framed_iff_dated :
    CanonicalUrl.IsCanonical ⟨"https://[::1]/n/5"⟩ ∧
    (datedArticle "2024-05-01").IsFramed ⟨1714557600, 0⟩ ∧
    ¬ (datedArticle "2024-05-01\n---").IsFramed ⟨1714557600, 0⟩ := by
  have hurl : CanonicalUrl.IsCanonical ⟨"https://[::1]/n/5"⟩ :=
    ⟨"https://[::1]/n/5".toList, by decide +kernel⟩
  have hplain : (parseDocument (datedPage "2024-05-01")).metadata.publishDate =
      some "2024-05-01".toList := by decide +kernel
  have hbroken : (parseDocument (datedPage "2024-05-01\n---")).metadata.publishDate =
      some "2024-05-01\n---".toList := by decide +kernel
  refine ⟨hurl, ?_, fun h => ?_⟩
  · refine (framed_iff hurl 20 Stage.chain _ _).1.mpr fun date hdate => ?_
    rw [hplain, Option.some.injEq] at hdate
    rw [← hdate]
    decide
  · exact (framed_iff hurl 20 Stage.chain _ _).1.mp h _ hbroken (by decide)

/-- The date of a page may hold a rule, and then its article, taken all the same, is not framed. -/
theorem date_ends_front_matter :
    (datedArticle "2024-05-01\n---\n\nNo").success = true ∧
    (datedArticle "2024-05-01\n---\n\nNo").metadata.publishDate =
      some "2024-05-01\n---\n\nNo".toList ∧
    ¬ (datedArticle "2024-05-01\n---\n\nNo").IsFramed ⟨1714557600, 0⟩ := by
  have hdate : (datedArticle "2024-05-01\n---\n\nNo").metadata.publishDate =
      some "2024-05-01\n---\n\nNo".toList := by
    rw [datedArticle, extract_metadata]
    decide +kernel
  refine ⟨by decide +kernel, hdate, fun h => ?_⟩
  have hline := isFramed_iff_lines.mp h ("publish_date".toList, "2024-05-01\n---\n\nNo".toList)
  refine hline ?_ (by decide)
  simp only [Extraction.fields, Extraction.fieldValues, hdate]
  simp [fieldNames]

end Archiver
