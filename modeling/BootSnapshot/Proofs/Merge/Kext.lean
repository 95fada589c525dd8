import BootSnapshot.Merge.Reconcile
import BootSnapshot.Proofs.Component.Path

set_option autoImplicit false

namespace BootSnapshot

/-- The paths of a kext, as an item or a scan spells them. -/
structure KextPaths where
  bundle : String
  executable : String
  plist : String
deriving DecidableEq

namespace KextPaths

open ComponentPath

def ofComponent (component : Component) : KextPaths where
  bundle := component.relativePath
  executable := component.executablePath.getD ""
  plist := component.infoPath.getD ""

/-- The paths that an item holds; what is missing or no text counts as empty. -/
def ofDictionary (fields : Dictionary Node) : KextPaths where
  bundle := fields.textOrEmpty Field.bundlePath
  executable := fields.textOrEmpty Field.executablePath
  plist := fields.textOrEmpty Field.plistPath

def bundleKey (kext : KextPaths) : String := normalize kext.bundle

/-- What tells kexts of one bundle path apart. -/
def qualifier (kext : KextPaths) : String :=
  if kext.executable = "" then kext.plist else kext.executable

def qualifiedKey (kext : KextPaths) : String :=
  KextIdentity.qualified kext.bundleKey kext.executable kext.plist

def keyIn (identity : KextIdentity) (kext : KextPaths) : String :=
  identity.ofFields kext.bundle kext.executable kext.plist

theorem keyIn_eq (identity : KextIdentity) (kext : KextPaths) : kext.keyIn identity =
    if identity.isShared kext.bundleKey then kext.qualifiedKey else kext.bundleKey := rfl

theorem keyIn_byBundle (kext : KextPaths) : kext.keyIn .byBundle = kext.bundleKey := by
  have single : KextIdentity.byBundle.isShared kext.bundleKey = false := rfl
  simp only [keyIn_eq, single, Bool.false_eq_true, ↓reduceIte]

theorem keyIn_ofDictionary (identity : KextIdentity) (fields : Dictionary Node) :
    (ofDictionary fields).keyIn identity = identity.ofDictionary fields := rfl

theorem keyIn_ofComponent (identity : KextIdentity) {component : Component}
    (kext : component.category = .kext) :
    (ofComponent component).keyIn identity = component.identifyingPath identity := by
  unfold Component.identifyingPath
  rw [kext]
  rfl

/-- The spelling of the bundle path is all that does not matter. -/
theorem keyIn_congr {one other : KextPaths} (bundle : one.bundleKey = other.bundleKey)
    (executable : one.executable = other.executable) (plist : one.plist = other.plist)
    (identity : KextIdentity) : one.keyIn identity = other.keyIn identity := by
  rw [keyIn_eq, keyIn_eq]
  unfold qualifiedKey
  rw [bundle, executable, plist]

/-- The parts that the identity has after those of the bundle path. -/
def innerParts (identity : KextIdentity) (kext : KextPaths) : List (List Char) :=
  if identity.isShared kext.bundleKey then partsOf kext.qualifier else []

theorem partsOf_qualifiedKey (kext : KextPaths) :
    partsOf kext.qualifiedKey = partsOf kext.bundle ++ partsOf kext.qualifier := by
  change partsOf (normalize (kext.bundleKey ++ "/" ++ kext.qualifier)) = _
  rw [partsOf_normalize, partsOf_join, bundleKey, partsOf_normalize]

theorem partsOf_keyIn (identity : KextIdentity) (kext : KextPaths) :
    partsOf (kext.keyIn identity) = partsOf kext.bundle ++ kext.innerParts identity := by
  rw [keyIn_eq]
  unfold innerParts
  split
  · exact partsOf_qualifiedKey kext
  · rw [List.append_nil, bundleKey, partsOf_normalize]

theorem normalize_keyIn (identity : KextIdentity) (kext : KextPaths) :
    normalize (kext.keyIn identity) = kext.keyIn identity := by
  rw [keyIn_eq]
  split
  · exact normalize_normalize _
  · exact normalize_normalize _

/-- Kexts have one identity if and only if their identities have the same parts. -/
theorem keyIn_eq_iff (identity : KextIdentity) (one other : KextPaths) :
    one.keyIn identity = other.keyIn identity ↔
      partsOf one.bundle ++ one.innerParts identity =
        partsOf other.bundle ++ other.innerParts identity := by
  rw [← partsOf_keyIn, ← partsOf_keyIn, ← normalize_eq_iff, normalize_keyIn, normalize_keyIn]

theorem keyIn_ne_empty (identity : KextIdentity) {kext : KextPaths} (named : kext.bundleKey ≠ "") :
    kext.keyIn identity ≠ "" := by
  intro empty
  have none : partsOf (kext.keyIn identity) = [] := congrArg partsOf empty
  rw [partsOf_keyIn, List.append_eq_nil_iff] at none
  exact named ((normalize_eq_empty_iff kext.bundle).mpr none.1)

/-- The second bundle lies inside the first, whose path is shared, and the executable of the first
lies where the second kext is identified: at its bundle, or at its executable if its bundle path is
shared too. -/
structure LeadsTo (identity : KextIdentity) (outer inner : KextPaths) : Prop where
  shared : identity.isShared outer.bundleKey
  inside : ∃ way, way ≠ [] ∧ partsOf inner.bundle = partsOf outer.bundle ++ way ∧
    partsOf outer.qualifier = way ++ inner.innerParts identity

theorem LeadsTo.keyIn_eq {identity : KextIdentity} {outer inner : KextPaths}
    (leads : LeadsTo identity outer inner) : outer.keyIn identity = inner.keyIn identity := by
  obtain ⟨way, -, bundle, qualifier⟩ := leads.inside
  rw [keyIn_eq_iff, bundle, List.append_assoc, ← qualifier]
  simp only [innerParts, leads.shared, ↓reduceIte]

/-- A longer bundle path under one identity. -/
theorem leadsTo_of_append {identity : KextIdentity} {outer inner : KextPaths}
    {way : List (List Char)} (apart : outer.bundleKey ≠ inner.bundleKey)
    (bundle : partsOf inner.bundle = partsOf outer.bundle ++ way)
    (rest : outer.innerParts identity = way ++ inner.innerParts identity) :
    LeadsTo identity outer inner := by
  have somewhere : way ≠ [] := by
    intro nowhere
    rw [nowhere, List.append_nil] at bundle
    exact apart ((normalize_eq_iff _ _).mpr bundle.symm)
  have shared : identity.isShared outer.bundleKey = true := by
    by_contra unshared
    simp only [innerParts, unshared, ↓reduceIte] at rest
    exact somewhere (List.append_eq_nil_iff.mp rest.symm).1
  refine ⟨shared, way, somewhere, bundle, ?_⟩
  rw [← rest]
  simp only [innerParts, shared, ↓reduceIte]

/-- Kexts of different bundle paths have one identity exactly if one leads to the other. -/
theorem keyIn_eq_iff_leadsTo {identity : KextIdentity} {one other : KextPaths}
    (apart : one.bundleKey ≠ other.bundleKey) :
    one.keyIn identity = other.keyIn identity ↔
      LeadsTo identity one other ∨ LeadsTo identity other one := by
  constructor
  · intro same
    rw [keyIn_eq_iff, List.append_eq_append_iff] at same
    rcases same with ⟨way, bundle, rest⟩ | ⟨way, bundle, rest⟩
    · exact Or.inl (leadsTo_of_append apart bundle rest)
    · exact Or.inr (leadsTo_of_append (Ne.symm apart) bundle rest)
  · rintro (leads | leads)
    · exact leads.keyIn_eq
    · exact leads.keyIn_eq.symm

/-- No qualified path is the path of another bundle, qualified or not. -/
def Apart (kexts : List KextPaths) : Prop :=
  ∀ one ∈ kexts, ∀ other ∈ kexts, one.bundleKey ≠ other.bundleKey →
    one.qualifiedKey ≠ other.bundleKey ∧ one.qualifiedKey ≠ other.qualifiedKey

instance (kexts : List KextPaths) : Decidable (Apart kexts) := by unfold Apart; infer_instance

theorem Apart.bundleKey_eq {kexts : List KextPaths} (apart : Apart kexts) {one other : KextPaths}
    (first : one ∈ kexts) (second : other ∈ kexts) (identity : KextIdentity)
    (same : one.keyIn identity = other.keyIn identity) : one.bundleKey = other.bundleKey := by
  by_contra differ
  have forward := apart one first other second differ
  have backward := apart other second one first (Ne.symm differ)
  rw [keyIn_eq, keyIn_eq] at same
  split at same
  · split at same
    · exact forward.2 same
    · exact forward.1 same
  · split at same
    · exact backward.1 same.symm
    · exact differ same

end KextPaths
end BootSnapshot
