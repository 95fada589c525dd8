import Mathlib.Logic.Function.Basic
import BootSnapshot.Command.Run
import BootSnapshot.Proofs.Scan.Quiet

set_option autoImplicit false

namespace BootSnapshot

/-- What files hold, by their paths. -/
abbrev Files := String → Option (List UInt8)

/-- All files but those at some paths hold the same. -/
def Files.AgreeBut (paths : List String) (one other : Files) : Prop :=
  ∀ path, path ∉ paths → one path = other path

namespace Files.AgreeBut

theorem refl (paths : List String) (files : Files) : AgreeBut paths files files :=
  fun _ _ => rfl

theorem trans {paths : List String} {one between other : Files}
    (first : AgreeBut paths one between) (second : AgreeBut paths between other) :
    AgreeBut paths one other :=
  fun path apart => (first path apart).trans (second path apart)

theorem mono {paths more : List String} {one other : Files} (agree : AgreeBut paths one other)
    (inside : paths ⊆ more) : AgreeBut more one other :=
  fun path apart => agree path fun member => apart (inside member)

theorem update (path : String) (content : Option (List UInt8)) (files : Files) :
    AgreeBut [path] (Function.update files path content) files :=
  fun _ apart => Function.update_of_ne (fun same => apart (List.mem_singleton.mpr same)) _ _

end Files.AgreeBut

variable {σ : Type}

/-- On a flat storage different paths are different files. Every operation may fail: what only reads
has then changed nothing, a write or a copy may have left any bytes in its own file, and a move has
changed nothing. -/
structure Storage.IsFlat (storage : Storage (StateM σ)) (files : σ → Files) : Prop where
  quiet : storage.toDisk.Quiet files
  read : ∀ path state bytes, ((storage.read path).run state).1 = .ok bytes →
    files state path = some bytes
  status : ∀ path state found, ((storage.status path).run state).1 = .ok found →
    found.kind = .file → files state path ≠ none
  /-- Where a path leads does not change while the files stay. -/
  canonical : ∀ path one other, files one = files other → ∀ place place',
    ((storage.canonical path).run one).1 = .ok place →
    ((storage.canonical path).run other).1 = .ok place' → place = place'
  write : ∀ path bytes state, match (storage.write path bytes).run state with
    | (.ok _, after) => files after = Function.update (files state) path (some bytes)
    | (.error _, after) => Files.AgreeBut [path] (files after) (files state)
  copy : ∀ source target state, source ≠ target →
    match (storage.copy source target).run state with
    | (.ok _, after) => files state source ≠ none ∧
        files after = Function.update (files state) target (files state source)
    | (.error _, after) => Files.AgreeBut [target] (files after) (files state)
  rename : ∀ source target state, source ≠ target →
    match (storage.rename source target).run state with
    | (.ok _, after) => files after =
        Function.update (Function.update (files state) target (files state source)) source none
    | (.error _, after) => files after = files state

/-- A host with such a storage, on which neither the clock nor the user changes files. -/
structure Host.IsFlat (host : Host (StateM σ)) (files : σ → Files) : Prop
    extends host.storage.IsFlat files where
  now : Keeps files host.now
  confirm : ∀ question, Keeps files (host.confirm question)

/-- Files on a disk that takes so many writes before it is full. -/
structure Shelf where
  files : Files
  room : Nat
  /-- The directories that there are. Their files are not listed. -/
  directories : List String := ["."]

namespace Shelf

def statusOf (shelf : Shelf) (path : String) : Except OsError FileStatus :=
  match shelf.files path with
  | some bytes => .ok ⟨.file, bytes.length⟩
  | none => if path ∈ shelf.directories then .ok ⟨.directory, 0⟩ else .error .notFound

def listingOf (shelf : Shelf) (path : String) : Except OsError Listing :=
  if path ∈ shelf.directories then .ok ⟨[], []⟩ else .error .notDirectory

def contentOf (shelf : Shelf) (path : String) : Except OsError (List UInt8) :=
  match shelf.files path with
  | some bytes => .ok bytes
  | none => .error .notFound

def put (shelf : Shelf) (path : String) (bytes : List UInt8) : Except OsError Unit × Shelf :=
  match shelf.room with
  | room + 1 => (.ok (),
      { shelf with files := Function.update shelf.files path (some bytes), room := room })
  | 0 => (.error (.other 28 "No space left on device"),
      { shelf with files := Function.update shelf.files path (some []) })

def storage : Storage (StateM Shelf) where
  canonical path := pure (.ok path)
  status path := fun shelf => (shelf.statusOf path, shelf)
  ownKind path := fun shelf => ((shelf.statusOf path).map FileStatus.kind, shelf)
  list path := fun shelf => (shelf.listingOf path, shelf)
  read path := fun shelf => (shelf.contentOf path, shelf)
  depthBound := pure 1
  write path bytes := fun shelf => shelf.put path bytes
  copy source target := fun shelf =>
    match shelf.files source with
    | some bytes => shelf.put target bytes
    | none => (.error .notFound, shelf)
  rename source target := fun shelf =>
    match shelf.files source with
    | some bytes =>
      let moved := Function.update (Function.update shelf.files target (some bytes)) source none
      (.ok (), { shelf with files := moved })
    | none => (.error .notFound, shelf)
  createDirectories _ := pure (.ok ())
  openLog _ := pure (.ok ())

theorem put_cases (shelf : Shelf) (path : String) (bytes : List UInt8) :
    (∃ room, shelf.put path bytes = (.ok (),
      { shelf with files := Function.update shelf.files path (some bytes), room := room })) ∨
    ∃ error, shelf.put path bytes =
      (.error error, { shelf with files := Function.update shelf.files path (some []) }) := by
  unfold put
  cases shelf.room with
  | zero => exact Or.inr ⟨_, rfl⟩
  | succ room => exact Or.inl ⟨room, rfl⟩

theorem isFlat : storage.IsFlat files where
  quiet := ⟨fun _ _ => rfl, fun _ _ => rfl, fun _ _ => rfl, fun _ _ => rfl, fun _ _ => rfl,
    fun _ => rfl⟩
  read path shelf bytes done := by
    change shelf.contentOf path = .ok bytes at done
    unfold contentOf at done
    split at done
    · rename_i held
      rw [held, Except.ok.inj done]
    · cases done
  status path shelf found done file := by
    change shelf.statusOf path = .ok found at done
    intro absent
    simp only [statusOf, absent] at done
    split at done
    · rw [← Except.ok.inj done] at file
      cases file
    · cases done
  canonical path one other _ place place' first second := by
    change Except.ok path = .ok place at first
    change Except.ok path = .ok place' at second
    exact (Except.ok.inj first).symm.trans (Except.ok.inj second)
  write path bytes shelf := by
    have tried : (storage.write path bytes).run shelf = shelf.put path bytes := rfl
    rw [tried]
    rcases shelf.put_cases path bytes with ⟨room, written⟩ | ⟨error, failed⟩
    · rw [written]
    · rw [failed]
      exact Files.AgreeBut.update _ _ _
  copy source target shelf _ := by
    cases held : shelf.files source with
    | none =>
      have failed : (storage.copy source target).run shelf = (.error .notFound, shelf) := by
        simp only [storage, StateT.run, held]
      rw [failed]
      exact Files.AgreeBut.refl _ _
    | some bytes =>
      have tried : (storage.copy source target).run shelf = shelf.put target bytes := by
        simp only [storage, StateT.run, held]
      rw [tried]
      rcases shelf.put_cases target bytes with ⟨room, written⟩ | ⟨error, failed⟩
      · rw [written]
        exact ⟨Option.some_ne_none _, rfl⟩
      · rw [failed]
        exact Files.AgreeBut.update _ _ _
  rename source target shelf _ := by
    cases held : shelf.files source with
    | none =>
      have failed : (storage.rename source target).run shelf = (.error .notFound, shelf) := by
        simp only [storage, StateT.run, held]
      rw [failed]
    | some bytes =>
      have moved : (storage.rename source target).run shelf = (.ok (), { shelf with
          files := Function.update (Function.update shelf.files target (some bytes)) source none }) :=
        by simp only [storage, StateT.run, held]
      rw [moved]

/-- A host on which no one answers and no time passes. -/
def host : Host (StateM Shelf) where
  storage := storage
  environment := []
  now := pure "1970-01-01T00:00:00Z"
  confirm _ := pure none

theorem host_isFlat : host.IsFlat files where
  toIsFlat := isFlat
  now := Keeps.pure _
  confirm _ := Keeps.pure _

end Shelf
end BootSnapshot
