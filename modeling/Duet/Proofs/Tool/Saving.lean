import Duet.Tool.Host

/-!
# What can be saved, and what is there afterwards

Whether a file can be created is decided by the directories and files on the way to it and not by
what the files hold. So adding to a file, which is all that logging does, takes no part in it.

**Saving a text comes out the same on two hosts with the same files and streams that are as full**
(`Host.save_alike`), and **a file that a text was saved to holds its bytes and nothing else**
(`Host.content?_save`).
-/

namespace Duet.Tool

namespace Files

/-! ## Files that are there -/

/-- The same directories, files and devices are there, whatever the files hold. -/
def Alike (f g : Files) : Prop :=
  ∀ here name, f.child? here name = g.child? here name

theorem Alike.refl (f : Files) : f.Alike f := fun _ _ => rfl

theorem Alike.trans {f g k : Files} (first : f.Alike g) (second : g.Alike k) : f.Alike k :=
  fun here name => (first here name).trans (second here name)

/-- Writing to a file that is there leaves the same files there. -/
theorem alike_write {f : Files} {place : Place} {old : List UInt8}
    (isFile : f.content? place = some old) (content : List UInt8) :
    f.Alike (f.write place content) := by
  intro here name
  cases place with
  | inside path =>
    obtain ⟨held, found⟩ : ∃ held, f.find? path = some (.file held) := by
      simp only [content?] at isFile
      split at isFile
      · next held found => exact ⟨held, found⟩
      · cases isFile
    have ne : path ≠ [] := by
      rintro rfl
      simp [find?] at found
    cases here with
    | outside dir => rfl
    | inside dir =>
      by_cases same : path = dir ++ [name]
      · subst same
        simp only [child?, write, find?_put_self f ne, found, Option.map_some]
      · simp only [child?, write, find?_put_of_ne f same]
  | outside path =>
    have found : f.made.lookup path = some old := isFile
    cases here with
    | inside dir => rfl
    | outside dir =>
      by_cases same : path = dir ++ [name]
      · subst same
        simp only [child?, content?, write, Place.add, lookup_filter_append_self, found,
          Option.map_some]
      · simp only [child?, content?, write, Place.add, lookup_append_single_ne same,
          lookup_filter_ne same]

theorem alike_append (f : Files) (place : Place) (data : List UInt8) :
    f.Alike (f.append place data) := by
  unfold append
  split
  · next content isFile => exact alike_write isFile _
  · exact .refl f

/-! ## Creating -/

theorem Alike.enter {f g : Files} (alike : f.Alike g) (here : Place) (name : List Char) :
    f.enter here name = g.enter here name := by
  simp only [Files.enter, alike here name]

theorem Alike.walk {f g : Files} (alike : f.Alike g) (here : Place) (names : List (List Char)) :
    f.walk here names = g.walk here names := by
  induction names generalizing here with
  | nil => rfl
  | cons name names ih =>
    rw [Files.walk, Files.walk, alike.enter]
    congr
    funext next
    exact ih next

/-- What a name is opened as, or why it is not. -/
theorem Alike.openAt {f g : Files} (alike : f.Alike g) (here : Place) (name : List Char) :
    (f.openAt here name).map (·.2) = (g.openAt here name).map (·.2) := by
  simp only [Files.openAt, alike here name]
  split
  · rfl
  · split
    · rfl
    · rfl
    · split <;> rfl
    · unfold make
      split <;> rfl

/-- **Creating a file comes out the same** where the same files are there. -/
theorem Alike.create {f g : Files} (alike : f.Alike g) (text : List Char) :
    (f.create text).map (·.2) = (g.create text).map (·.2) := by
  unfold Files.create
  split
  · rfl
  · split
    · rfl
    · simp only [alike.walk]
      cases g.walk (if text.head? = some '/' then .outside [] else .inside [])
          (names text).dropLast with
      | error e => rfl
      | ok here =>
        cases (names text).getLast? with
        | none => rfl
        | some last =>
          change (if _ then _ else _ : Except SystemError _).map _ =
            (if _ then _ else _ : Except SystemError _).map _
          split
          · rfl
          · exact alike.openAt here last

theorem add_ne_inside_nil (here : Place) (name : List Char) : here.add name ≠ .inside [] := by
  cases here <;> simp [Place.add]

/-- What a system has outside the working directory are no files. -/
theorem outsideNode?_ne_file (path : Path) (place : Place) :
    outsideNode? path ≠ some (.file place) := by
  unfold outsideNode?
  split
  · simp
  · simp
  · split <;> simp

theorem child?_eq_file {f : Files} {here place : Place} {name : List Char}
    (found : f.child? here name = some (.file place)) : place = here.add name := by
  cases here with
  | inside dir =>
    obtain ⟨item, -, eq⟩ := Option.map_eq_some_iff.1 found
    cases item with
    | directory => cases eq
    | file content =>
      cases eq
      rfl
  | outside dir =>
    rcases Option.or_eq_some_iff.1 found with known | ⟨-, own⟩
    · exact absurd known (outsideNode?_ne_file _ _)
    · obtain ⟨content, -, eq⟩ := Option.map_eq_some_iff.1 own
      cases eq
      rfl

theorem openAt_eq_file {f files : Files} {here place : Place} {name : List Char}
    (opened : f.openAt here name = .ok (files, .file place)) :
    files = f.write place [] ∧ place ≠ .inside [] := by
  unfold openAt at opened
  split at opened
  · cases opened
  · split at opened
    · cases opened
    · next at_ found =>
      cases opened
      rw [child?_eq_file found]
      exact ⟨rfl, add_ne_inside_nil here name⟩
    · split at opened <;> cases opened
    · unfold make at opened
      split at opened
      · cases opened
        exact ⟨rfl, add_ne_inside_nil here name⟩
      · cases opened

/-- A file that was created is there and empty, and nothing else has changed. -/
theorem create_eq_file {f files : Files} {text : List Char} {place : Place}
    (created : f.create text = .ok (files, .file place)) :
    files = f.write place [] ∧ place ≠ .inside [] := by
  unfold create at created
  split at created
  · cases created
  · split at created
    · cases created
    · cases walked : f.walk (if text.head? = some '/' then .outside [] else .inside [])
          (names text).dropLast with
      | error e =>
        simp only [walked] at created
        cases created
      | ok here =>
        cases last : (names text).getLast? with
        | none =>
          simp only [walked, last] at created
          cases created
        | some name =>
          simp only [walked, last] at created
          change (if _ then _ else _ : Except SystemError _) = _ at created
          split at created
          · cases created
          · exact openAt_eq_file created

end Files

namespace Host

/-! ## Writing -/

/-- The same streams are full, the same files are there, and the system has the same against
creating them and writing to them. -/
structure Alike (a b : Host) : Prop where
  stdout : a.stdout.isFull = b.stdout.isFull
  stderr : a.stderr.isFull = b.stderr.isFull
  files : a.files.Alike b.files
  creates : a.createRefusal = b.createRefusal
  writes : a.writeRefusal = b.writeRefusal

theorem Alike.refl (h : Host) : h.Alike h := ⟨rfl, rfl, .refl h.files, rfl, rfl⟩

theorem Alike.trans {a b c : Host} (first : a.Alike b) (second : b.Alike c) : a.Alike c where
  stdout := first.stdout.trans second.stdout
  stderr := first.stderr.trans second.stderr
  files := first.files.trans second.files
  creates := first.creates.trans second.creates
  writes := first.writes.trans second.writes

/-- Why something that was opened takes nothing. -/
def refusal? (h : Host) : Target → Option SystemError
  | .file place => h.writeRefusal place
  | .device .full => some .noSpace
  | .device .stdout => if h.stdout.isFull then some .noSpace else none
  | .device .stderr => if h.stderr.isFull then some .noSpace else none
  | _ => none

theorem writeTo_of_refused {h : Host} {target : Target} {e : SystemError}
    (refused : h.refusal? target = some e) (data : List UInt8) :
    h.writeTo target data = .error e := by
  cases target with
  | file place =>
    have refused : h.writeRefusal place = some e := refused
    simp only [writeTo, refused]
  | device device =>
    cases device with
    | null => cases refused
    | terminal => cases refused
    | program => cases refused
    | full =>
      cases refused
      rfl
    | stdout =>
      by_cases full : h.stdout.isFull <;> simp_all [refusal?, writeTo, Stream.write?]
    | stderr =>
      by_cases full : h.stderr.isFull <;> simp_all [refusal?, writeTo, Stream.write?]

theorem writeTo_of_taken {h : Host} {target : Target} (taken : h.refusal? target = none)
    (data : List UInt8) : ∃ after, h.writeTo target data = .ok after := by
  cases target with
  | file place =>
    have taken : h.writeRefusal place = none := taken
    exact ⟨{ h with files := h.files.append place data }, by simp only [writeTo, taken]⟩
  | device device =>
    cases device with
    | null => exact ⟨_, rfl⟩
    | terminal => exact ⟨_, rfl⟩
    | program => exact ⟨_, rfl⟩
    | full => cases taken
    | stdout =>
      by_cases full : h.stdout.isFull <;> simp_all [refusal?, writeTo, Stream.write?]
    | stderr =>
      by_cases full : h.stderr.isFull <;> simp_all [refusal?, writeTo, Stream.write?]

theorem Alike.refusal? {a b : Host} (alike : a.Alike b) (target : Target) :
    a.refusal? target = b.refusal? target := by
  simp only [Host.refusal?, alike.stdout, alike.stderr, alike.writes]

/-! ## Creating -/

/-- What a path is opened as, or why it is not. -/
def opens (h : Host) (path : List Char) : Except SystemError Target :=
  (h.create path).map (·.2)

theorem Alike.opens {a b : Host} (alike : a.Alike b) (path : List Char) :
    a.opens path = b.opens path := by
  have same := alike.files.create path
  unfold Host.opens Host.create
  rw [alike.creates]
  cases b.createRefusal path with
  | some e => rfl
  | none =>
    cases first : a.files.create path <;> cases second : b.files.create path <;>
      simp_all [Except.map]

/-- Creating a file changes the files only. -/
theorem create_eq_ok {h after : Host} {path : List Char} {target : Target}
    (created : h.create path = .ok (after, target)) :
    ∃ files, h.files.create path = .ok (files, target) ∧ after = { h with files } := by
  unfold create at created
  split at created
  · cases created
  · cases opened : h.files.create path with
    | error e =>
      rw [opened] at created
      cases created
    | ok pair =>
      rw [opened] at created
      cases created
      exact ⟨_, rfl, rfl⟩

/-! ## Saving -/

/-- What becomes of a text that is to be saved: it depends on what the path leads to. -/
theorem save_snd (h : Host) (path : List Char) (text : String) :
    (h.save path text).2 =
      match h.opens path with
      | .error e => .notCreated e
      | .ok target =>
        match h.refusal? target with
        | none => .done
        | some e => .notWritten e := by
  cases created : h.create path with
  | error e => simp [save, opens, created, Except.map]
  | ok opened =>
    obtain ⟨after, target⟩ := opened
    obtain ⟨files, -, rfl⟩ := create_eq_ok created
    have same : Host.refusal? { h with files } target = h.refusal? target := rfl
    simp only [save, opens, created, Except.map]
    cases refused : h.refusal? target with
    | none =>
      obtain ⟨after, wrote⟩ := writeTo_of_taken (same.trans refused) (bytesOf text)
      simp only [wrote]
    | some e => simp only [writeTo_of_refused (same.trans refused)]

/-- **Saving a text comes out the same** on hosts that are alike. -/
theorem Alike.save {a b : Host} (alike : a.Alike b) (path : List Char) (text : String) :
    (a.save path text).2 = (b.save path text).2 := by
  simp only [save_snd, alike.opens, alike.refusal?]

/-- **A file that a text was saved to** holds its bytes and nothing else. -/
theorem content?_save {h : Host} {path : List Char} {place : Place} {text : String}
    (opens : h.opens path = .ok (.file place)) (done : (h.save path text).2 = .done) :
    (h.save path text).1.files.content? place = some (bytesOf text) := by
  cases created : h.create path with
  | error e =>
    rw [Host.opens, created] at opens
    cases opens
  | ok pair =>
    obtain ⟨after, target⟩ := pair
    have isFile : target = .file place := by
      rw [Host.opens, created] at opens
      exact Except.ok.inj opens
    subst isFile
    obtain ⟨files, isCreated, rfl⟩ := create_eq_ok created
    obtain ⟨rfl, named⟩ := Files.create_eq_file isCreated
    have empty := Files.content?_write h.files named []
    simp only [save, created, writeTo] at done ⊢
    cases refused : h.writeRefusal place with
    | some e =>
      simp only [refused] at done
      cases done
    | none =>
      simp only [Files.append, empty, List.nil_append]
      exact Files.content?_write _ named _

end Host

end Duet.Tool
