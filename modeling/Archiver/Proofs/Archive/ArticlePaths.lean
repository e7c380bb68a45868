import Archiver.Proofs.Archive.Places
import Archiver.Proofs.Time.TimestampText

namespace Archiver

/-- A text that writes a number with so many digits. -/
structure IsNumeral (width n : Nat) (s : List Char) : Prop where
  length : s.length = width
  digits : ∀ c ∈ s, isAsciiDigit c = true
  value : decimalValue s = n

section Days

theorem isNumeral_year {y : Int} (hlow : 0 ≤ y) (hhigh : y ≤ 9999) : IsNumeral 4 y.toNat (yearText y) := by
  obtain ⟨n, rfl⟩ := Int.eq_ofNat_of_zero_le hlow
  have hn : n ≤ 9999 := by omega
  have hyear : yearText n = padLeft 4 n.repr.toList := if_pos hn
  have hlength := length_repr_le (n := n) (k := 4) (by omega) (by omega)
  rw [hyear]
  refine ⟨?_, fun c hc => isAsciiDigit_of_mem_padLeft hc, decimalValue_padLeft 4 n⟩
  rw [length_padLeft]
  omega

theorem isNumeral_twoDigits {n : Nat} (h : n < 100) : IsNumeral 2 n (twoDigits n) :=
  ⟨length_twoDigits h, fun _ hc => isAsciiDigit_of_mem_twoDigits hc, decimalValue_twoDigits h⟩

theorem daysInMonth_le (y : Int) (m : Nat) : daysInMonth y m ≤ 31 := by
  unfold daysInMonth
  repeat' split
  all_goals decide

theorem Timestamp.month_lt (t : Timestamp) : t.day.month < 100 := by
  have := (ofNumber_month (t.seconds / 86400)).2
  rw [Timestamp.day]
  omega

theorem Timestamp.dayOfMonth_lt (t : Timestamp) : t.day.day < 100 := by
  have hday := (ofNumber_day (t.seconds / 86400)).2
  have hmonth := daysInMonth_le (Day.ofNumber (t.seconds / 86400)).year
    (Day.ofNumber (t.seconds / 86400)).month
  rw [Timestamp.day]
  omega

end Days

section Names

variable {m n : Nat} {s : List Char}

theorem toNat_digit_le {c : Char} (h : isAsciiDigit c = true) : 48 ≤ c.toNat ∧ c.toNat ≤ 57 := by
  simp only [isAsciiDigit, Bool.and_eq_true, decide_eq_true_eq, UInt32.le_iff_toNat_le] at h
  exact h

theorem fileChar_of_digit {c : Char} (h : isAsciiDigit c = true) : isFileChar c = true := by
  have hreserved : isReserved c = false := by
    rw [Bool.eq_false_iff]
    intro hc
    have hmem := List.contains_iff_mem.mp hc
    simp only [List.mem_cons, List.not_mem_nil, or_false] at hmem
    rcases hmem with rfl | rfl | rfl | rfl | rfl | rfl | rfl | rfl | rfl <;> cases h
  have hcontrol : isControl c = false := by
    obtain ⟨hlow, hhigh⟩ := toNat_digit_le h
    simp only [isControl, Bool.or_eq_false_iff, Bool.and_eq_false_iff, decide_eq_false_iff_not,
      UInt32.le_iff_toNat_le]
    change ¬ c.toNat ≤ 0x1F ∧ (¬ 0x7F ≤ c.toNat ∨ ¬ c.toNat ≤ 0x9F)
    omega
  exact isFileChar_iff.mpr ⟨hreserved, hcontrol, isBlank_of_digit h⟩

theorem IsNumeral.fits (h : IsNumeral m n s) : FitsName m s := by
  refine ⟨fun c hc => fileChar_of_digit (h.digits c hc), ?_⟩
  rw [length_encodeUtf8_ascii fun c hc => ?_, h.length]
  have := (toNat_digit_le (h.digits c hc)).2
  omega

theorem fits_dayText {d : Day} (hlow : 0 ≤ d.year) (hhigh : d.year ≤ 9999) (hmonth : d.month < 100)
    (hday : d.day < 100) : FitsName 10 d.text := by
  have hmark : FitsName 1 ['-'] := by decide
  exact (isNumeral_year hlow hhigh).fits.append (hmark.append
    ((isNumeral_twoDigits hmonth).fits.append (hmark.append (isNumeral_twoDigits hday).fits)))

/-- The longest names there are: 10 bytes of the day, 60 of the address and 120 of the title, with two
marks of 2 bytes and an end of 3. -/
theorem fits_fileName (e : Extraction) {captured : Timestamp} (hlow : 0 ≤ captured.day.year)
    (hhigh : captured.day.year ≤ 9999) : FitsName 197 (e.stem captured ++ ".md".toList) := by
  have hday := fits_dayText hlow hhigh captured.month_lt captured.dayOfMonth_lt
  have hmark : FitsName 2 "__".toList := by decide
  have hend : FitsName 3 ".md".toList := by decide
  exact ((((hday.append hmark).append (fits_slugName e.url)).append hmark).append
    (fits_titleName e.title)).append hend

end Names

/-- A directory with the slash that names behind it need. -/
def withSlash (directory : String) : String :=
  if directory.isEmpty || directory.endsWith "/" then directory else directory ++ "/"

section Paths

variable {name : String}

theorem joinPath_plain (h : IsPlain name) (directory : String) :
    joinPath directory name = withSlash directory ++ name := by
  rw [joinPath, if_neg (by simp [h.startsWith]), withSlash]
  split <;> rfl

theorem withSlash_plain (h : IsPlain name) (front : String) :
    withSlash (front ++ name) = front ++ name ++ "/" := by
  have hend : ¬ (front ++ name).endsWith "/" = true := fun hs => by
    obtain ⟨rest, hr⟩ := endsWith_slash hs
    have hname : name.toList ≠ [] := fun hn => h.nonempty (String.toList_eq_nil_iff.mp hn)
    rw [String.toList_append] at hr
    have hlast := congrArg List.getLast? hr
    rw [List.getLast?_append_of_ne_nil _ hname, List.getLast?_concat] at hlast
    exact h.noSlash (List.mem_of_getLast? hlast)
  have hempty : ¬ (front ++ name).isEmpty = true := by simp [h.nonempty]
  rw [withSlash, if_neg (by simp [hend, hempty])]

/-- The directories of its day and its file are written behind the root, a slash between them. -/
theorem archivePath_text (root : String) (e : Extraction) (captured : Timestamp) :
    archivePath root e captured =
      withSlash root ++ String.ofList (yearText captured.day.year) ++ "/" ++
        String.ofList (twoDigits captured.day.month) ++ "/" ++
        String.ofList (e.stem captured ++ ".md".toList) := by
  rw [archivePath, Extraction.fileNames]
  simp only [List.foldl_cons, List.foldl_nil]
  rw [← Extraction.stem, joinPath_plain (isPlain_yearText _), joinPath_plain (isPlain_twoDigits _),
    withSlash_plain (isPlain_yearText _), joinPath_plain (isPlain_fileName e captured),
    withSlash_plain (isPlain_twoDigits _)]

theorem temporary_below (path : Path) (year month name : String) :
    Path.temporary (path ++ [year, month, name]) = path ++ [year, month, name ++ ".tmp"] := by
  simp [Path.temporary, List.dropLast_append_of_ne_nil]

end Paths

/-- In the years 0 to 9999 the path of an article is the root and three names below it: the year in
four digits, the month in two and a file name that ends in `.md`, holds nothing that a file system would
refuse and leaves room for the end of the name under which it is written first. A text made fit for such
a name is the longest beginning of the cleaned text that has at most 80 characters and 120 bytes, and a
fit text stays as it is. -/
theorem archivePath_fits (root : String) (e : Extraction) (captured : Timestamp) (v : List Char) :
    (0 ≤ captured.day.year → captured.day.year ≤ 9999 → ∃ year month name : String,
      archivePath root e captured = withSlash root ++ year ++ "/" ++ month ++ "/" ++ name ∧
      Path.ofText (archivePath root e captured) = Path.ofText root ++ [year, month, name] ∧
      (Path.ofText (archivePath root e captured)).temporary =
        Path.ofText root ++ [year, month, name ++ ".tmp"] ∧
      IsNumeral 4 captured.day.year.toNat year.toList ∧
      IsNumeral 2 captured.day.month month.toList ∧
      ".md".toList <:+ name.toList ∧ (∀ c ∈ name.toList, isFileChar c = true) ∧
      (encodeUtf8 (name ++ ".tmp").toList).length ≤ 255) ∧
    (∀ name, name = sanitizeFileName v ↔
      ∃ cleaned, Hyphenated (dropForbidden v) cleaned ∧ IsLongestFit 80 120 cleaned name) ∧
    sanitizeFileName (sanitizeFileName v) = sanitizeFileName v := by
  refine ⟨fun hlow hhigh => ?_, fun name => sanitize_eq_iff, sanitize_sanitize v⟩
  have hplace : Path.ofText (archivePath root e captured) = Path.ofText root ++
      [String.ofList (yearText captured.day.year), String.ofList (twoDigits captured.day.month),
        String.ofList (e.stem captured ++ ".md".toList)] := by
    rw [← Extraction.place, place_eq, archiveDirectory, List.append_assoc]
    rfl
  have hname := fits_fileName e hlow hhigh
  have htmp : FitsName 4 ".tmp".toList := by decide
  have hlist : (String.ofList (e.stem captured ++ ".md".toList)).toList =
      e.stem captured ++ ".md".toList := String.toList_ofList
  refine ⟨_, _, _, archivePath_text root e captured, hplace, ?_, ?_, ?_, ?_, ?_, ?_⟩
  · rw [hplace, temporary_below]
  · rw [String.toList_ofList]
    exact isNumeral_year hlow hhigh
  · rw [String.toList_ofList]
    exact isNumeral_twoDigits captured.month_lt
  · rw [hlist]
    exact List.suffix_append _ _
  · rw [hlist]
    exact hname.characters
  · rw [String.toList_append, hlist]
    exact ((hname.append htmp).le (by decide)).bytes

/-- An article whose address ends in no name that is left and whose title is of wide characters, with
controls and blanks among them that are both or one of the two. -/
def wideArticle : Extraction :=
  ⟨⟨"https://[::1]/n/?*"⟩, [], none,
    ⟨some ("Ä \x01\t \u3000/b\n:".toList ++ List.replicate 90 '😀'), none, false, none⟩⟩

/-- The title is cut by its bytes, and the file name fits. -/
theorem archivePath_fits_wide :
    (0 ≤ (⟨1714557600, 0⟩ : Timestamp).day.year ∧ (⟨1714557600, 0⟩ : Timestamp).day.year ≤ 9999) ∧
    (∃ year month name : String,
      Path.ofText (archivePath "out" wideArticle ⟨1714557600, 0⟩) = ["out", year, month, name] ∧
      (encodeUtf8 (name ++ ".tmp").toList).length ≤ 255) ∧
    sanitizeFileName wideArticle.title = "Ä-b".toList ++ List.replicate 29 '😀' ∧
    sanitizeFileName (sanitizeFileName wideArticle.title) = sanitizeFileName wideArticle.title := by
  have hlow : 0 ≤ (⟨1714557600, 0⟩ : Timestamp).day.year := by decide
  have hhigh : (⟨1714557600, 0⟩ : Timestamp).day.year ≤ 9999 := by decide
  obtain ⟨hpath, -, hagain⟩ :=
    archivePath_fits "out" wideArticle ⟨1714557600, 0⟩ wideArticle.title
  obtain ⟨year, month, name, -, hplace, -, -, -, -, -, hbytes⟩ := hpath hlow hhigh
  have hroot : Path.ofText "out" = ["out"] := by decide +kernel
  rw [hroot] at hplace
  exact ⟨⟨hlow, hhigh⟩, ⟨year, month, name, hplace, hbytes⟩, by decide +kernel, hagain⟩

end Archiver
