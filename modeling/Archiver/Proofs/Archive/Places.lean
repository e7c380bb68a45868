import Archiver.Proofs.Archive.FileNames
import Archiver.Proofs.Storage.Paths
import Archiver.Proofs.Time.TimeChars

namespace Archiver

theorem extract_url (least : Nat) (chain : List Stage) (url : CanonicalUrl) (page : Document) :
    (extract least chain url page).url = url := by
  unfold extract
  split <;> rfl

theorem isPlain_of_mem {s : List Char} {c : Char} (hs : '/' ∉ s) (hc : c ∈ s) (hne : c ≠ '.') :
    IsPlain (String.ofList s) := by
  have hother : ∀ t : String, c ∉ t.toList → String.ofList s ≠ t := by
    rintro t ht rfl
    rw [String.toList_ofList] at ht
    exact ht hc
  refine ⟨by rwa [String.toList_ofList], hother _ (by simp), hother _ ?_, hother _ ?_⟩
  · simpa using hne
  · simpa using hne

theorem digit_mem_repr (n : Nat) : ∃ c ∈ n.repr.toList, c ≠ '.' := by
  obtain ⟨c, cs, hc⟩ := List.exists_cons_of_ne_nil (repr_ne_nil n)
  have hmem : c ∈ n.repr.toList := hc ▸ List.mem_cons_self
  refine ⟨c, hmem, ?_⟩
  rintro rfl
  exact absurd (isAsciiDigit_of_mem_repr hmem) (by decide)

theorem isPlain_yearText (y : Int) : IsPlain (String.ofList (yearText y)) := by
  have hdigit : ∃ c ∈ yearText y, c ≠ '.' := by
    cases y with
    | ofNat n =>
      obtain ⟨c, hc, hne⟩ := digit_mem_repr n
      refine ⟨c, ?_, hne⟩
      rw [yearText]
      split
      · exact List.mem_append_right _ hc
      · exact List.mem_cons_of_mem _ (List.mem_append_right _ hc)
    | negSucc n =>
      obtain ⟨c, hc, hne⟩ := digit_mem_repr (n + 1)
      exact ⟨c, List.mem_cons_of_mem _ (List.mem_append_right _ hc), hne⟩
  obtain ⟨c, hc, hne⟩ := hdigit
  exact isPlain_of_mem (fun h => absurd (timeChar_of_mem_yearText h) (by decide)) hc hne

theorem isPlain_twoDigits (n : Nat) : IsPlain (String.ofList (twoDigits n)) := by
  obtain ⟨c, hc, hne⟩ := digit_mem_repr n
  have hmem : c ∈ twoDigits n := by
    unfold twoDigits
    split
    · exact List.mem_cons_of_mem _ hc
    · exact hc
  exact isPlain_of_mem (fun h => absurd (timeChar_of_mem_twoDigits h) (by decide)) hmem hne

/-- The name of an article's file, without what every such name ends in. -/
def Extraction.stem (e : Extraction) (captured : Timestamp) : List Char :=
  captured.day.text ++ "__".toList ++ slugName e.url ++ "__".toList ++ titleName e.title

theorem slash_not_mem_stem (e : Extraction) (captured : Timestamp) : '/' ∉ e.stem captured := by
  have hday : '/' ∉ captured.day.text := fun h => absurd (timeChar_of_mem_dayText h) (by decide)
  simp only [Extraction.stem, List.mem_append, not_or]
  exact ⟨⟨⟨⟨hday, by simp⟩, (fits_slugName _).noSlash⟩, by simp⟩, (fits_titleName _).noSlash⟩

theorem isPlain_fileName (e : Extraction) (captured : Timestamp) :
    IsPlain (String.ofList (e.stem captured ++ ".md".toList)) := by
  refine isPlain_of_mem (c := 'm') ?_ (List.mem_append_right _ (by simp)) (by decide)
  rw [List.mem_append, not_or]
  exact ⟨slash_not_mem_stem e captured, by simp⟩

/-- The directory of the articles captured on a day. -/
def archiveDirectory (root : String) (captured : Timestamp) : Path :=
  Path.ofText root ++ [String.ofList (yearText captured.day.year),
    String.ofList (twoDigits captured.day.month)]

/-- The place of an article in a tree of files. -/
def Extraction.place (e : Extraction) (root : String) (captured : Timestamp) : Path :=
  Path.ofText (archivePath root e captured)

/-- An article lies in the directory of its day, under its stem. -/
theorem place_eq (e : Extraction) (root : String) (captured : Timestamp) :
    e.place root captured =
      archiveDirectory root captured ++ [String.ofList (e.stem captured ++ ".md".toList)] := by
  rw [Extraction.place, archivePath, Extraction.fileNames, archiveDirectory]
  simp only [List.foldl_cons, List.foldl_nil]
  rw [← Extraction.stem, ofText_joinPath (isPlain_fileName e captured),
    ofText_joinPath (isPlain_twoDigits _), ofText_joinPath (isPlain_yearText _)]
  simp only [List.append_assoc, List.cons_append, List.nil_append]

theorem root_below_place (e : Extraction) (root : String) (captured : Timestamp) :
    Path.ofText root <+: e.place root captured := by
  rw [place_eq, archiveDirectory, List.append_assoc]
  exact List.prefix_append _ _

/-- No article lies where another one is written before it takes its place. -/
theorem place_ne_temporary (e f : Extraction) (root : String) (t u : Timestamp) :
    e.place root t ≠ (f.place root u).temporary := by
  intro h
  have hlast := congrArg (fun p => (List.getLastD p "").toList.getLast?) h
  rw [place_eq, place_eq, Path.temporary] at hlast
  simp [String.toList_append] at hlast

end Archiver
