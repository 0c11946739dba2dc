import RadioFrontEnd.Proofs.Transport

/-!
# Texts kept in files

A text written to a path is the text that is read from it.  The path is followed twice, before and
after the write, and the write may put a new file into the table.  The way stays the same since each
name on it is looked up in a directory, and a write puts nothing in place of a directory
(`KeepsDirectories`).

Not every file gives back what it was given: a pipe and the null device take a text and lose it.
`HasRoom` therefore asks for a regular file, or for a place where there is nothing yet.
-/

namespace RadioFrontEnd

/-- The bytes of a memory that was made of bytes. -/
theorem Memory.toBytes_ofBytes (data : ByteArray) : (ofBytes data).toBytes = data := by
  have hlist : (ofBytes data).toBytes.data.toList = data.data.toList := by
    have hall : data.data.toList.length ≤ (ofBytes data).size := Nat.le_of_eq Array.length_toList
    rw [toBytes, toList_read, List.drop_zero, toList_ofBytes, List.take_of_length_le hall]
  exact ByteArray.ext (Array.toList_inj.mp hlist)

namespace Files

variable {fs fs' : Files}

/-- Files in which all directories that can be entered are as before. -/
def KeepsDirectories (fs fs' : Files) : Prop :=
  ∀ place, fs.get? place = some ⟨.directory, false⟩ → fs'.get? place = some ⟨.directory, false⟩

theorem enter_eq_ok_iff {place : Place} :
    fs.enter place = .ok () ↔ fs.get? place = some ⟨.directory, false⟩ := by
  rw [enter]
  split <;> simp_all

theorem KeepsDirectories.walk_eq (h : KeepsDirectories fs fs') {here place : Place}
    {names : List String} (hwalk : fs.walk here names = .ok place) :
    fs'.walk here names = .ok place := by
  induction names generalizing here with
  | nil => exact hwalk
  | cons name names ih =>
    rw [walk] at hwalk ⊢
    cases henter : fs.enter here with
    | error e =>
      rw [henter] at hwalk
      cases hwalk
    | ok u =>
      have henter' : fs'.enter here = .ok () :=
        enter_eq_ok_iff.mpr (h here (enter_eq_ok_iff.mp henter))
      rw [henter] at hwalk
      rw [henter']
      simp only [bind, Except.bind] at hwalk ⊢
      split_ifs at hwalk ⊢ with hdot hup hlong
      · exact ih hwalk
      · exact ih hwalk
      · exact ih hwalk

theorem KeepsDirectories.locate_eq (h : KeepsDirectories fs fs')
    (hworking : fs'.workingDirectory = fs.workingDirectory) {path : String} {place : Place}
    (hlocate : fs.locate path = .ok place) : fs'.locate path = .ok place := by
  have hkeep (start : Place)
      (hstart : (fs.walk start (names path)).mapError FileError.system = .ok place) :
      (fs'.walk start (names path)).mapError FileError.system = .ok place := by
    cases hwalk : fs.walk start (names path) with
    | error e =>
      rw [hwalk] at hstart
      cases hstart
    | ok there =>
      rw [hwalk] at hstart
      rw [h.walk_eq hwalk]
      exact hstart
  rw [locate] at hlocate ⊢
  rw [hworking]
  split_ifs at hlocate ⊢ with hnul hempty hlong <;> exact hkeep _ hlocate

/-- A file that holds a text reads as this text. -/
theorem readText_of_text {path text : String} {place : Place} (hlocate : fs.locate path = .ok place)
    (hfile : fs.get? place = some ⟨.regular (.ofBytes text.toUTF8), false⟩) :
    fs.readText path = .ok text := by
  have htext : String.fromUTF8? text.toUTF8 = some text := dif_pos text.isValidUTF8
  rw [readText, hlocate]
  simp only [bind, Except.bind, hfile, Memory.toBytes_ofBytes, htext]

/-- A text can be kept at the path: it leads to a free place or to a regular file that is open to
the caller, and it does not end in a slash. -/
def HasRoom (fs : Files) (path : String) : Prop :=
  path.toList.getLast? ≠ some '/' ∧
    ∃ place, fs.locate path = .ok place ∧
      (fs.get? place = none ∨ ∃ content, fs.get? place = some ⟨.regular content, false⟩)

/-- A text that is written is the text that is read. -/
theorem HasRoom.exists_writeText_eq {path : String} (h : fs.HasRoom path) (text : String) :
    ∃ fs', fs.writeText path text = .ok fs' ∧ fs'.readText path = .ok text := by
  obtain ⟨hslash, place, hlocate, hplace⟩ := h
  let file : File := { kind := .regular (.ofBytes text.toUTF8) }
  -- A path is written to as it is, if there are no slashes to be taken off its end.
  have hbare : String.ofList (path.toList.reverse.dropWhile (· = '/')).reverse = path := by
    have hkeep : path.toList.reverse.dropWhile (· = '/') = path.toList.reverse := by
      cases hreverse : path.toList.reverse with
      | nil => rfl
      | cons c cs =>
        have hc : c ≠ '/' := by
          rintro rfl
          rw [← List.head?_reverse, hreverse] at hslash
          exact hslash rfl
        rw [List.dropWhile_cons, decide_eq_false hc, if_neg Bool.false_ne_true]
    rw [hkeep, List.reverse_reverse, String.ofList_toList]
  have hkeeps : KeepsDirectories fs (fs.set place file) := by
    intro q hq
    rw [get?_set_file, if_neg, hq]
    rintro rfl
    rcases hplace with hnone | ⟨content, hregular⟩
    · rw [hnone] at hq
      cases hq
    · rw [hregular] at hq
      cases hq
  refine ⟨fs.set place file, ?_, ?_⟩
  · rw [writeText]
    simp only [hbare, ne_eq, not_true_eq_false, false_and, if_false, hlocate, bind, Except.bind]
    rcases hplace with hnone | ⟨content, hregular⟩
    · rw [hnone]
    · rw [hregular]
  · have hthere : (fs.set place file).get? place = some file := by
      rw [get?_set_file, if_pos rfl]
    exact readText_of_text (hkeeps.locate_eq rfl hlocate) hthere

end Files
end RadioFrontEnd
