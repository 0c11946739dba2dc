import Mathlib
import RadioFrontEnd.Config.Load
import RadioFrontEnd.Proofs.TextFiles

/-!
# Which file a configuration comes from

A configuration is looked for along a list of paths, and the first path with something at its end
decides.  What is there may be unreadable, no document, or a configuration that is of no use; then
that is the result, and no later path is tried.

`Gives` says what a single file gives, case by case, without reading any of the loading functions.
`fromFile_eq_iff` says that loading from a file gives exactly that.  So each statement about the
search is one about `Files.fileAt?`, which is what a path leads to: a present path is one that leads
to something (`isPresent_eq`), and what is read from a present path is settled by what it leads to
(`readText_congr`).  The result of a search therefore stays the same in other files in which the
paths up to the deciding one lead to the same things (`result_load_congr`).

A later path need not be another file: the directory of the user may be that of the system.  Changes
of later files are hence changes at places where no path up to the deciding one ends.
-/

namespace RadioFrontEnd

open RadioFrontEnd.Action

/-! ## What a path leads to -/

namespace Files

variable {fs fs' : Files} {path : String}

/-- What is at the end of a path, if anything is. -/
def fileAt? (fs : Files) (path : String) : Option File :=
  match fs.locate path with
  | .ok place => fs.get? place
  | .error _ => none

theorem fileAt?_of_locate {place : Place} (h : fs.locate path = .ok place) :
    fs.fileAt? path = fs.get? place := by
  rw [fileAt?, h]

theorem isPresent_eq (fs : Files) (path : String) :
    fs.isPresent path = (fs.fileAt? path).isSome := by
  rw [isPresent, fileAt?]
  cases fs.locate path <;> rfl

theorem isPresent_congr (h : fs'.fileAt? path = fs.fileAt? path) :
    fs'.isPresent path = fs.isPresent path := by
  rw [isPresent_eq, isPresent_eq, h]

theorem exists_locate_of_isPresent (h : fs.isPresent path = true) :
    ∃ place, fs.locate path = .ok place := by
  rw [isPresent] at h
  cases hlocate : fs.locate path with
  | ok place => exact ⟨place, rfl⟩
  | error cause =>
    rw [hlocate] at h
    cases h

/-- Where something is, it alone says what is read. -/
theorem readText_congr (hpresent : fs.isPresent path = true)
    (h : fs'.fileAt? path = fs.fileAt? path) : fs'.readText path = fs.readText path := by
  obtain ⟨place, hplace⟩ := exists_locate_of_isPresent hpresent
  obtain ⟨place', hplace'⟩ := exists_locate_of_isPresent ((isPresent_congr h).trans hpresent)
  rw [fileAt?_of_locate hplace, fileAt?_of_locate hplace'] at h
  rw [readText, readText, hplace, hplace']
  simp only [bind, Except.bind, h]

/-- The files differ at most at the ends of some paths, and the same directories can be entered. -/
structure DifferOnlyAt (fs : Files) (paths : List String) (fs' : Files) : Prop where
  /-- Relative paths start at the same place. -/
  workingDirectory_eq : fs'.workingDirectory = fs.workingDirectory
  /-- Where none of the paths ends, the same file is. -/
  get?_eq : ∀ place, (∀ path ∈ paths, fs.locate path ≠ .ok place) → fs'.get? place = fs.get? place
  /-- What is made or lost is no directory. -/
  directory_iff : ∀ place,
    fs'.get? place = some ⟨.directory, false⟩ ↔ fs.get? place = some ⟨.directory, false⟩

/-- A path leads to the same thing as before, if it does not end where the files differ. -/
theorem DifferOnlyAt.fileAt?_eq {paths : List String} (h : fs.DifferOnlyAt paths fs')
    (hends : ∀ other ∈ paths, ∀ place, fs.locate other = .ok place → fs.locate path ≠ .ok place) :
    fs'.fileAt? path = fs.fileAt? path := by
  have hkeeps : KeepsDirectories fs fs' := fun place => (h.directory_iff place).mpr
  have hkept : KeepsDirectories fs' fs := fun place => (h.directory_iff place).mp
  cases hlocate : fs.locate path with
  | ok place =>
    have hsame : fs'.get? place = fs.get? place :=
      h.get?_eq place fun other hother hplace => hends other hother place hplace hlocate
    rw [fileAt?_of_locate hlocate,
      fileAt?_of_locate (hkeeps.locate_eq h.workingDirectory_eq hlocate), hsame]
  | error cause =>
    cases hlocate' : fs'.locate path with
    | ok place =>
      rw [hkept.locate_eq h.workingDirectory_eq.symm hlocate'] at hlocate
      cases hlocate
    | error cause' => rw [fileAt?, hlocate', fileAt?, hlocate]

/-- To take away what is at the end of a path, and no directory, changes nothing elsewhere. -/
theorem differOnlyAt_of_set {place : Place} {file : File}
    (hend : (fs.set place file).locate path = .ok place) (hnone : fs.get? place = none)
    (hkind : file.kind ≠ .directory) : (fs.set place file).DifferOnlyAt [path] fs where
  workingDirectory_eq := rfl
  get?_eq q hq := by
    have hne : place ≠ q := by
      rintro rfl
      exact hq path List.mem_cons_self hend
    rw [get?_set_file, if_neg hne]
  directory_iff q := by
    rw [get?_set_file]
    split_ifs with hq
    · rw [← hq, hnone]
      constructor
      · intro h
        cases h
      · intro h
        exact absurd (congrArg File.kind (Option.some.inj h)) hkind
    · exact Iff.rfl

/-! ## The pieces of a path -/

/-- The pieces of a path between its slashes, if so many steps are enough to find them. -/
def pieces? (path : String) :
    Nat → (start here : String.Pos.Raw) → (found : List String) → Option (List String)
  | 0, _, _, _ => none
  | n + 1, start, here, found =>
    if here.atEnd path then some (start.extract path here :: found).reverse
    else if here.get path = '/' then
      pieces? path n (here.next path) (here.next path) (start.extract path here :: found)
    else pieces? path n start (here.next path) found

theorem splitOnAux_of_pieces? {n : Nat} {start here : String.Pos.Raw} {found pieces : List String}
    (h : pieces? path n start here found = some pieces) :
    path.splitOnAux "/" start here 0 found = pieces := by
  induction n generalizing start here found with
  | zero => cases h
  | succ n ih =>
    have hslash : String.Pos.Raw.get "/" 0 = '/' := by decide
    have hone : String.Pos.Raw.next "/" 0 = ⟨1⟩ := by decide
    have hend : String.Pos.Raw.atEnd "/" ⟨1⟩ = true := by decide
    have hback (p : String.Pos.Raw) : p.unoffsetBy 0 = p := rfl
    rw [pieces?] at h
    rw [String.splitOnAux]
    simp only [hslash, hone, hend, hback, beq_iff_eq, if_true]
    split_ifs at h ⊢ with hat hget
    · exact Option.some.inj h
    · have hover : (here.next path).unoffsetBy ⟨1⟩ = here := by
        rw [String.Pos.Raw.next, hget]
        rfl
      rw [hover]
      exact ih h
    · exact ih h

/-- The names that a path goes through, from its pieces. -/
theorem names_of_pieces? {n : Nat} {pieces : List String}
    (h : pieces? path n 0 0 [] = some pieces) :
    names path = if pieces.getLast? = some "" ∧ pieces.filter (· ≠ "") ≠ [] then
      pieces.filter (· ≠ "") ++ ["."] else pieces.filter (· ≠ "") := by
  have hsplit : path.splitOn "/" = pieces := by
    rw [String.splitOn, if_neg (by decide)]
    exact splitOnAux_of_pieces? h
  rw [names, hsplit]

end Files

namespace Config

/-! ## What a file gives -/

/-- What a file gives as a configuration: the first of its faults, or the configuration in it. -/
inductive Gives (fs : Files) (path : String) : Except ConfigError Config → Prop
  /-- There is no text to be had. -/
  | unreadable {cause : FileError} (hread : fs.readText path = .error cause) :
    Gives fs path (.error (.file path cause))
  /-- The text is no document of a configuration. -/
  | malformed {text : String} {cause : Yaml.DecodeError} (hread : fs.readText path = .ok text)
      (hparse : ofText text = .error cause) : Gives fs path (.error (.document cause))
  /-- The configuration breaks a rule. -/
  | invalid {text : String} {c : Config} {violation : Violation}
      (hread : fs.readText path = .ok text) (hparse : ofText text = .ok c)
      (hcheck : c.validate = .error violation) : Gives fs path (.error (.invalid violation))
  /-- The configuration is of use. -/
  | valid {text : String} {c : Config} (hread : fs.readText path = .ok text)
      (hparse : ofText text = .ok c) (hcheck : c.validate = .ok ()) : Gives fs path (.ok c)

variable {fs fs' : Files} {path : String} {env : Environment}

theorem Gives.fromFile_eq {r : Except ConfigError Config} (h : Gives fs path r) :
    fromFile fs path = r := by
  cases h with
  | unreadable hread =>
    rw [fromFile, hread]
    rfl
  | malformed hread hparse =>
    rw [fromFile, hread]
    simp only [Except.mapError, bind, Except.bind, ofValidText, hparse]
  | invalid hread hparse hcheck =>
    rw [fromFile, hread]
    simp only [Except.mapError, bind, Except.bind, ofValidText, hparse, hcheck]
  | valid hread hparse hcheck =>
    rw [fromFile, hread]
    simp only [Except.mapError, bind, Except.bind, ofValidText, hparse, hcheck, pure, Except.pure]

theorem gives_fromFile (fs : Files) (path : String) : Gives fs path (fromFile fs path) := by
  have h {r : Except ConfigError Config} (hr : Gives fs path r) :
      Gives fs path (fromFile fs path) := hr.fromFile_eq.symm ▸ hr
  cases hread : fs.readText path with
  | error cause => exact h (.unreadable hread)
  | ok text =>
    cases hparse : ofText text with
    | error cause => exact h (.malformed hread hparse)
    | ok c =>
      cases hcheck : c.validate with
      | error violation => exact h (.invalid hread hparse hcheck)
      | ok u => exact h (.valid hread hparse hcheck)

theorem fromFile_eq_iff {r : Except ConfigError Config} :
    fromFile fs path = r ↔ Gives fs path r :=
  ⟨fun h => h ▸ gives_fromFile fs path, Gives.fromFile_eq⟩

theorem Gives.validate_eq {c : Config} (h : Gives fs path (.ok c)) : c.validate = .ok () := by
  cases h with
  | valid _ _ hcheck => exact hcheck

theorem loadFrom_yields_fromFile (fs : Files) (path : String) :
    (loadFrom path).Yields fs (fromFile fs path) fs :=
  (yields_get fs).bind ((yields_pure (fromFile fs path) fs).after_report .debug _)

theorem result_loadFrom (fs : Files) (path : String) :
    ((loadFrom path).run fs).result = .ok (fromFile fs path) := by
  obtain ⟨events, he⟩ := loadFrom_yields_fromFile fs path
  rw [he]

theorem fromFile_congr (hpresent : fs.isPresent path = true)
    (h : fs'.fileAt? path = fs.fileAt? path) : fromFile fs' path = fromFile fs path := by
  rw [fromFile, fromFile, Files.readText_congr hpresent h]

/-! ## The search -/

theorem run_load_of_named (hconfig : env.config = some path) (hpresent : fs.isPresent path = true) :
    (load env).run fs = (loadFrom path).run fs := by
  rw [load, run_get_bind, hconfig]
  dsimp only
  rw [if_pos hpresent]

theorem yields_load_of_missing (hconfig : env.config = some path)
    (habsent : fs.isPresent path = false) :
    (load env).Yields fs (.error (.notFound path)) fs := by
  refine (yields_get fs).bind ?_
  rw [hconfig]
  dsimp only
  rw [habsent]
  exact yields_pure _ fs

theorem run_load_of_find? (hconfig : env.config = none)
    (hfind : env.searchPath.find? fs.isPresent = some path) :
    (load env).run fs = (loadFrom path).run fs := by
  rw [load, run_get_bind, hconfig]
  dsimp only
  rw [hfind]

theorem yields_load_of_find?_eq_none (hconfig : env.config = none)
    (hfind : env.searchPath.find? fs.isPresent = none) : (load env).Yields fs (.ok {}) fs := by
  refine (yields_get fs).bind ?_
  rw [hconfig]
  dsimp only
  rw [hfind]
  exact yields_pure _ fs

section First

variable {before after : List String} (hconfig : env.config = none)
  (hpath : env.searchPath = before ++ path :: after)
  (hbefore : ∀ p ∈ before, fs.isPresent p = false) (hpresent : fs.isPresent path = true)

include hpath hbefore hpresent

theorem find?_searchPath : env.searchPath.find? fs.isPresent = some path := by
  rw [hpath, List.find?_eq_some_iff_append]
  exact ⟨hpresent, before, after, rfl, fun p hp => by rw [hbefore p hp, Bool.not_false]⟩

include hconfig

theorem run_load_of_first : (load env).run fs = (loadFrom path).run fs :=
  run_load_of_find? hconfig (find?_searchPath hpath hbefore hpresent)

/-- **Nothing behind the deciding path matters.**  In other files in which the paths up to it lead
to the same things, the search gives the same. -/
theorem result_load_congr (hsame : ∀ p ∈ before ++ [path], fs'.fileAt? p = fs.fileAt? p) :
    ((load env).run fs').result = ((load env).run fs).result := by
  have hhere : fs'.fileAt? path = fs.fileAt? path :=
    hsame path (List.mem_append_right before List.mem_cons_self)
  have hbefore' : ∀ p ∈ before, fs'.isPresent p = false := fun p hp =>
    (Files.isPresent_congr (hsame p (List.mem_append_left [path] hp))).trans (hbefore p hp)
  have hpresent' : fs'.isPresent path = true := (Files.isPresent_congr hhere).trans hpresent
  rw [run_load_of_first hconfig hpath hbefore' hpresent',
    run_load_of_first hconfig hpath hbefore hpresent, result_loadFrom, result_loadFrom,
    fromFile_congr hpresent hhere]

end First

/-- Whatever the environment and the files are, the search ends, and what it gives is of use. -/
theorem exists_yields_load (env : Environment) (fs : Files) :
    ∃ r, (load env).Yields fs r fs ∧ ∀ c, r = .ok c → c.validate = .ok () := by
  have hloaded {path : String} (hrun : (load env).run fs = (loadFrom path).run fs) :
      ∃ r, (load env).Yields fs r fs ∧ ∀ c, r = .ok c → c.validate = .ok () := by
    obtain ⟨events, he⟩ := loadFrom_yields_fromFile fs path
    exact ⟨fromFile fs path, ⟨events, hrun.trans he⟩, fun c hc =>
      (fromFile_eq_iff.mp hc).validate_eq⟩
  cases hconfig : env.config with
  | some path =>
    cases hpresent : fs.isPresent path with
    | true => exact hloaded (run_load_of_named hconfig hpresent)
    | false => exact ⟨_, yields_load_of_missing hconfig hpresent, fun c hc => by cases hc⟩
  | none =>
    cases hfind : env.searchPath.find? fs.isPresent with
    | some path => exact hloaded (run_load_of_find? hconfig hfind)
    | none =>
      refine ⟨_, yields_load_of_find?_eq_none hconfig hfind, fun c hc => ?_⟩
      cases hc
      decide

/-- **The first present file decides.**  If the environment names a file, then this file is loaded,
and it is an error if it is not there.  If it names none, then the first path of the search path
with something at its end is loaded, whatever that is; and files that differ only behind it, at
places where it and the paths before it do not end, give the same.  If no path leads to anything,
the configuration is the standard one.  What loading a file gives is its first fault, or the
configuration in it.  And whatever is given is of use. -/
theorem first_present_file_decides (env : Environment) (files : Files) :
    (∀ path, env.config = some path →
      (files.isPresent path = false → (load env).Yields files (.error (.notFound path)) files) ∧
      (files.isPresent path = true → (load env).run files = (loadFrom path).run files)) ∧
    (∀ before path after, env.config = none → env.searchPath = before ++ path :: after →
      (∀ p ∈ before, files.isPresent p = false) → files.isPresent path = true →
        (load env).run files = (loadFrom path).run files ∧
        ∀ files', files.DifferOnlyAt after files' →
          (∀ p ∈ before ++ [path], ∀ later ∈ after, ∀ place,
            files.locate later = .ok place → files.locate p ≠ .ok place) →
          ((load env).run files').result = ((load env).run files).result) ∧
    (env.config = none → (∀ p ∈ env.searchPath, files.isPresent p = false) →
      (load env).Yields files (.ok {}) files) ∧
    (∀ path r, (loadFrom path).Yields files r files ↔ Gives files path r) ∧
    ∃ r, (load env).Yields files r files ∧ ∀ c, r = .ok c → c.validate = .ok () := by
  refine ⟨fun path hconfig => ⟨?_, ?_⟩, ?_, ?_, fun path r => ?_, exists_yields_load env files⟩
  · exact yields_load_of_missing hconfig
  · exact run_load_of_named hconfig
  · intro before path after hconfig hpath hbefore hpresent
    refine ⟨run_load_of_first hconfig hpath hbefore hpresent, fun files' hdiffer hends => ?_⟩
    exact result_load_congr hconfig hpath hbefore hpresent fun p hp =>
      hdiffer.fileAt?_eq (hends p hp)
  · intro hconfig habsent
    refine yields_load_of_find?_eq_none hconfig (List.find?_eq_none.mpr fun p hp => ?_)
    rw [habsent p hp]
    exact Bool.false_ne_true
  · rw [← fromFile_eq_iff]
    constructor
    · exact fun h => ((loadFrom_yields_fromFile files path).unique h).1
    · rintro rfl
      exact loadFrom_yields_fromFile files path

/-- A host on which the configuration of the user may not be read, and the system has none. -/
def shut : Files :=
  (((Files.fresh "work").set ["tmp", "saturn"] { kind := .directory }).set
    ["tmp", "saturn", "config.yaml"] { kind := .regular (.zeros 0), denied := true }).set
    ["etc", "saturn"] { kind := .directory }

/-- The same host with a file where the configuration of the system is looked for. -/
def shutBefore (file : File) : Files := shut.set ["etc", "saturn", "config.yaml"] file

/-- Where the search path leads on this host, whatever the system has. -/
theorem locate_shutBefore (file : File) :
    (shutBefore file).locate "./saturn.yaml" = .ok ["work", "saturn.yaml"] ∧
    (shutBefore file).locate "/tmp/saturn/config.yaml" = .ok ["tmp", "saturn", "config.yaml"] ∧
    (shutBefore file).locate "/etc/saturn/config.yaml" = .ok ["etc", "saturn", "config.yaml"] := by
  have hlocal : Files.names "./saturn.yaml" = [".", "saturn.yaml"] :=
    (@Files.names_of_pieces? _ 30 [".", "saturn.yaml"] rfl).trans (by decide)
  have huser : Files.names "/tmp/saturn/config.yaml" = ["tmp", "saturn", "config.yaml"] :=
    (@Files.names_of_pieces? _ 30 ["", "tmp", "saturn", "config.yaml"] rfl).trans (by decide)
  have hsystem : Files.names "/etc/saturn/config.yaml" = ["etc", "saturn", "config.yaml"] :=
    (@Files.names_of_pieces? _ 30 ["", "etc", "saturn", "config.yaml"] rfl).trans (by decide)
  refine ⟨?_, ?_, ?_⟩
  · rw [Files.locate, hlocal]
    cbv
  · rw [Files.locate, huser]
    cbv
  · rw [Files.locate, hsystem]
    cbv

/-- A configuration of the system, which is of use. -/
def strictFile : File := { kind := .regular (.ofBytes "strict_firmware: true".toUTF8) }

/-- An empty name in the environment names no file.  Without it the file of the user decides, though
it cannot be read and the one behind it could, and it decides the same without that one. -/
theorem first_present_file_decides_though_shut :
    (load { config := some "", home := "/" }).Yields (shutBefore strictFile)
      (.error (.notFound "")) (shutBefore strictFile) ∧
    ((load { home := "/", configHome := some "/tmp" }).run (shutBefore strictFile)).result =
      .ok (.error (.file "/tmp/saturn/config.yaml" (.system .accessDenied))) ∧
    ((load { home := "/", configHome := some "/tmp" }).run shut).result =
      .ok (.error (.file "/tmp/saturn/config.yaml" (.system .accessDenied))) := by
  obtain ⟨hlocal, huser, hsystem⟩ := locate_shutBefore strictFile
  have hempty : (shutBefore strictFile).isPresent "" = false := by
    have hnul : "".contains '\x00' = false := by cbv
    rw [Files.isPresent, Files.locate, hnul]
    rfl
  have habsent : (shutBefore strictFile).isPresent "./saturn.yaml" = false := by
    rw [Files.isPresent, hlocal]
    rfl
  have hpresent : (shutBefore strictFile).isPresent "/tmp/saturn/config.yaml" = true := by
    rw [Files.isPresent, huser]
    rfl
  have hread : (shutBefore strictFile).readText "/tmp/saturn/config.yaml" =
      .error (.system .accessDenied) := by
    rw [Files.readText, huser]
    rfl
  have hdiffer : (shutBefore strictFile).DifferOnlyAt ["/etc/saturn/config.yaml"] shut :=
    @Files.differOnlyAt_of_set shut _ _ strictFile hsystem rfl (by simp [strictFile])
  have hends : ∀ p ∈ ["./saturn.yaml"] ++ ["/tmp/saturn/config.yaml"],
      ∀ later ∈ ["/etc/saturn/config.yaml"], ∀ place,
        (shutBefore strictFile).locate later = .ok place →
          (shutBefore strictFile).locate p ≠ .ok place := by
    simp [hlocal, huser, hsystem]
  obtain ⟨hnamed, -⟩ :=
    first_present_file_decides { config := some "", home := "/" } (shutBefore strictFile)
  obtain ⟨-, hfirst, -, hgives, -⟩ :=
    first_present_file_decides { home := "/", configHome := some "/tmp" } (shutBefore strictFile)
  obtain ⟨hrun, hsame⟩ := hfirst ["./saturn.yaml"] "/tmp/saturn/config.yaml"
    ["/etc/saturn/config.yaml"] rfl (by cbv) (List.forall_mem_singleton.mpr habsent) hpresent
  obtain ⟨events, he⟩ := (hgives _ _).mpr (.unreadable hread)
  have hresult := congrArg Outcome.result (hrun.trans he)
  exact ⟨(hnamed "" rfl).1 hempty, hresult, (hsame shut hdiffer hends).trans hresult⟩

end Config
end RadioFrontEnd
