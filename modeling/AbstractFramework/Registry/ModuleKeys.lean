import AbstractFramework.Lib.Delimited
import AbstractFramework.Registry.ModuleList

/-! # The text and the key of a module

A module is named by the text `namespace:name` and stored under a key of three elements, the
first two of which carry their length.  Valid names have no colon and are short, and the text
of a valid version is not the one that stands for the latest version, so both the text and
the key give the module back.
-/

namespace AbstractFramework.Registry

open AbstractFramework Fallible Storage Delimited

/-! ## Decoding -/

/-- `Vec::split_off`: what is left, and what is split off. -/
def splitOff (value : Bytes) (position : Nat) : Except Failure (Bytes × Bytes) :=
  if position ≤ value.length then .ok (value.take position, value.drop position)
  else .error (.panicked ("`at` split index (is " ++ toString position ++ ") should be <= len (is " ++
    toString value.length ++ ")"))

def parseLength : Bytes → Except Failure Nat
  | [hi, lo] => .ok (decodeLength hi lo)
  | _ => .error (.error (.msg "Could not read 2 byte length"))

/-- `ModuleVersion::from_vec`, from the bytes. -/
def versionFromVec (value : Bytes) : Except Failure ModuleVersion := do
  let val ← stringFromUtf8 value
  return versionFromKey val

/-! ## Lengths -/

theorem splitOff_append (first second : Bytes) :
    splitOff (first ++ second) first.length = .ok (first, second) := by
  rw [splitOff, if_pos (by simp)]
  simp

theorem parseLength_encodeLength {n : Nat} (short : n < 65536) :
    parseLength (encodeLength n) = .ok n := by
  rw [encodeLength, parseLength, decodeLength_encodeLength short]

/-- An element with its length is split off. -/
theorem splitOff_element {element rest : Bytes} (short : element.length < 65536) :
    ∃ lengths others, splitOff (encodeLength element.length ++ (element ++ rest)) 2 =
        .ok (lengths, others) ∧ parseLength lengths = .ok element.length ∧
      splitOff others element.length = .ok (element, rest) :=
  ⟨_, _, splitOff_append (encodeLength element.length) _, parseLength_encodeLength short,
    splitOff_append element rest⟩

theorem versionFromVec_strBytes (text : String) :
    versionFromVec (strBytes text) = .ok (versionFromKey text) := by
  rw [versionFromVec, stringFromUtf8_strBytes]
  rfl

section Keys

variable [Crates]

/-! ## Modules -/

/-- `ModuleInfo::from_vec`, from the bytes. -/
def infoFromVec (value : Bytes) : Except Failure ModuleInfo := do
  let (value, provNameVer) ← splitOff value 2
  let provLen ← parseLength value
  let (prov, lenNameVer) ← splitOff provNameVer provLen
  let (lenNameVer, nameVer) ← splitOff lenNameVer 2
  let verLen ← parseLength lenNameVer
  let (name, ver) ← splitOff nameVer verLen
  let prov ← stringFromUtf8 prov
  let ns ← (Namespace.new prov).mapError fun e =>
    Failure.error (.msg ("Invalid namespace for module: " ++ nameErrorText e))
  let name ← stringFromUtf8 name
  let version ← versionFromVec ver
  return { ns, name, version }

def storageKey (info : ModuleInfo) : Bytes := keyBytes info.key

/-- The bytes that the keys of a namespace and a name start with. -/
def prefixBytes (ns : Namespace) (name : String) : Bytes :=
  encodeLength (strBytes ns.asStr).length ++ strBytes ns.asStr ++
    (encodeLength (strBytes name).length ++ strBytes name)

/-- The entries of a map of modules under a namespace and a name, with their versions. -/
def entriesUnder {ν : Type} (ns : Namespace) (name : String) (m : Map Bytes ν) :
    List (Except Failure ModuleVersion × ν) :=
  (under (prefixBytes ns name).isPrefixOf? m).map fun e => (versionFromVec e.1, e.2)

/-- The bytes of a key are decoded like its elements. -/
theorem infoFromVec_keyBytes {key : ModuleKey} (ns : key.ns.asStr.utf8ByteSize < 65536)
    (name : key.name.utf8ByteSize < 65536) :
    infoFromVec (keyBytes key) = (infoFromKey key).mapError Failure.error := by
  rw [← strBytes_length] at ns name
  obtain ⟨_, _, first, firstLength, firstElement⟩ :=
    @splitOff_element (strBytes key.ns.asStr) (encodeLength (strBytes key.name).length ++
      (strBytes key.name ++ strBytes key.version)) ns
  obtain ⟨_, _, second, secondLength, secondElement⟩ :=
    @splitOff_element (strBytes key.name) (strBytes key.version) name
  have bytes : keyBytes key = encodeLength (strBytes key.ns.asStr).length ++
      (strBytes key.ns.asStr ++ (encodeLength (strBytes key.name).length ++
        (strBytes key.name ++ strBytes key.version))) := by
    simp [keyBytes, joinedKey]
  simp only [infoFromVec, bytes, first, firstLength, firstElement, second, secondLength,
    secondElement, stringFromUtf8_strBytes, versionFromVec_strBytes, ok_bind, infoFromKey]
  cases Namespace.new key.ns.asStr <;> rfl

/-! ## Valid modules -/

variable {info info' : ModuleInfo} {ns : Namespace} {name : String}

/-- What the validation of a module checks. -/
theorem validate_eq_ok : info.validate = .ok () ↔
    ValidName info.key ∧ info.version.validate = .ok () := by
  simp only [ModuleInfo.validate, Namespace.validate, ValidName, ModuleInfo.key, bind_eq_ok,
    mapError_eq_ok, and_assoc]
  constructor
  · rintro ⟨⟨⟩, ns, ⟨⟩, name, version⟩
    exact ⟨ns, name, version⟩
  · rintro ⟨ns, name, version⟩
    exact ⟨(), ns, (), name, version⟩

theorem colon_notMem (valid : validateName name = .ok ()) : ':' ∉ name.toList := by
  simp only [validateName, bind_eq_ok, ensure_eq_ok, List.all_eq_true] at valid
  obtain ⟨_, _, _, _, _, characters, _⟩ := valid
  intro inside
  exact absurd (characters ':' inside) (by decide)

theorem size_of_validateName (valid : validateName name = .ok ()) : name.utf8ByteSize < 65536 :=
  Nat.lt_of_le_of_lt (length_of_validateName valid) (by decide)

/-- The text of a valid version does not stand for the latest one. -/
theorem versionFromKey_toStr (unversioned : ∀ v, Crates.parseVersion "latest" ≠ .ok v)
    {version : ModuleVersion} (valid : version.validate = .ok ()) :
    versionFromKey version.toStr = version := by
  cases version with
  | Latest => rfl
  | Version ver =>
    simp only [ModuleVersion.validate, bind_eq_ok, mapError_eq_ok] at valid
    obtain ⟨v, parsed, -⟩ := valid
    rw [ModuleVersion.toStr, versionFromKey, if_neg]
    rintro rfl
    exact unversioned v parsed

/-- The name of a valid module gives it back with its version. -/
theorem fromId_moduleId (valid : info.validate = .ok ()) :
    ModuleInfo.fromId info.moduleId info.version = .ok info := by
  obtain ⟨⟨ns, name⟩, -⟩ := validate_eq_ok.mp valid
  dsimp only [ModuleInfo.key] at ns name
  have colon : ":".toList = [':'] := by decide
  have parts : splitColon info.moduleId = [info.ns.asStr, info.name] := by
    rw [splitColon, ModuleInfo.moduleId, String.toList_append, String.toList_append, colon,
      List.append_assoc, List.singleton_append,
      splitOn_append_cons (colon_notMem ns) (colon_notMem name)]
    simp
  have lower : Crates.toLowercase info.name = info.name := by
    simp only [validateName, bind_eq_ok, ensure_eq_ok] at name
    obtain ⟨_, _, _, _, _, _, same⟩ := name
    exact same.symm
  rw [ModuleInfo.fromId, parts]
  simp only [Namespace.new, lower]
  rw [ns]
  rfl

/-- The key of a valid module gives it back. -/
theorem infoFromVec_storageKey (unversioned : ∀ v, Crates.parseVersion "latest" ≠ .ok v)
    (valid : info.validate = .ok ()) : infoFromVec (storageKey info) = .ok info := by
  obtain ⟨names, version⟩ := validate_eq_ok.mp valid
  rw [storageKey, infoFromVec_keyBytes (size_of_validateName names.1) (size_of_validateName names.2),
    infoFromKey_ok names, ModuleInfo.ofKey]
  simp only [ModuleInfo.key, versionFromKey_toStr unversioned version]
  rfl

/-- The keys that start with a namespace and a name are those of its versions. -/
theorem prefixBytes_append_eq_iff {rest : Bytes} (valid : ValidName info.key)
    (ns_ : ns.asStr.utf8ByteSize < 65536) (name_ : name.utf8ByteSize < 65536) :
    prefixBytes ns name ++ rest = storageKey info ↔
      info.ns = ns ∧ info.name = name ∧ rest = strBytes info.version.toStr := by
  have joined : prefixBytes ns name ++ rest =
      joinedKey [strBytes ns.asStr, strBytes name, rest] := by
    simp [prefixBytes, joinedKey]
  rw [joined]
  constructor
  · intro same
    have parts : [strBytes ns.asStr, strBytes name, rest] =
        [strBytes info.ns.asStr, strBytes info.name, strBytes info.version.toStr] := by
      refine joinedKey_injective rfl ?_ ?_ same
      · simp [ns_, name_]
      · have size := size_of_validateName valid.1
        have size' := size_of_validateName valid.2
        simpa using ⟨size, size'⟩
    simp only [List.cons.injEq, and_true] at parts
    exact ⟨congrArg Namespace.mk (strBytes_injective parts.1.symm),
      strBytes_injective parts.2.1.symm, parts.2.2⟩
  · rintro ⟨rfl, rfl, rfl⟩
    rfl

theorem storageKey_injective (unversioned : ∀ v, Crates.parseVersion "latest" ≠ .ok v)
    (valid : info.validate = .ok ()) (valid' : info'.validate = .ok ())
    (same : storageKey info = storageKey info') : info = info' := by
  have decoded := infoFromVec_storageKey unversioned valid
  rw [same, infoFromVec_storageKey unversioned valid', Except.ok.injEq] at decoded
  exact decoded.symm

/-- In a map of valid modules the entries under a namespace and a name are the modules that have
    them, each with its version. -/
theorem mem_entriesUnder {ν : Type} {m : Map Bytes ν} {version : Except Failure ModuleVersion}
    {v : ν} (unversioned : ∀ v, Crates.parseVersion "latest" ≠ .ok v)
    (modules : ∀ k ∈ m, ∃ info, ModuleInfo.validate info = .ok () ∧ k = storageKey info)
    (ns_ : ns.asStr.utf8ByteSize < 65536) (name_ : name.utf8ByteSize < 65536) :
    (version, v) ∈ entriesUnder ns name m ↔ ∃ info, ModuleInfo.validate info = .ok () ∧
      info.ns = ns ∧ info.name = name ∧ version = .ok info.version ∧
        m.lookup (storageKey info) = some v := by
  have decoded : ∀ {info : ModuleInfo}, info.validate = .ok () →
      versionFromVec (strBytes info.version.toStr) = .ok info.version := by
    intro info valid
    rw [versionFromVec_strBytes,
      versionFromKey_toStr unversioned (validate_eq_ok.mp valid).2]
  simp only [entriesUnder, List.mem_map, Prod.mk.injEq, Prod.exists, mem_under,
    List.isPrefixOf?_eq_some_iff_append_eq]
  constructor
  · rintro ⟨rest, _, ⟨k, found, starts⟩, rfl, rfl⟩
    obtain ⟨info, valid, rfl⟩ := modules k (mem_of_lookup found)
    obtain ⟨isNs, isName, rfl⟩ :=
      (prefixBytes_append_eq_iff (validate_eq_ok.mp valid).1 ns_ name_).mp starts
    exact ⟨info, valid, isNs, isName, decoded valid, found⟩
  · rintro ⟨info, valid, isNs, isName, rfl, found⟩
    exact ⟨strBytes info.version.toStr, v, ⟨storageKey info, found,
      (prefixBytes_append_eq_iff (validate_eq_ok.mp valid).1 ns_ name_).mpr ⟨isNs, isName, rfl⟩⟩,
      decoded valid, rfl⟩

/-- A valid module is given back by its key and by its text, has a key of its own, and is found
    under its namespace and its name and under no others. -/
theorem module_info_roundtrip (unversioned : ∀ v, Crates.parseVersion "latest" ≠ .ok v) :
    (∀ info, ModuleInfo.validate info = .ok () → infoFromVec (storageKey info) = .ok info ∧
      ModuleInfo.fromId info.moduleId info.version = .ok info) ∧
    (∀ info info', ModuleInfo.validate info = .ok () → ModuleInfo.validate info' = .ok () →
      info ≠ info' → storageKey info ≠ storageKey info') ∧
    ∀ (ν : Type) (m : Map Bytes ν),
      (∀ k ∈ m, ∃ info, ModuleInfo.validate info = .ok () ∧ k = storageKey info) →
      ∀ (ns : Namespace) (name : String), ns.asStr.utf8ByteSize < 65536 → name.utf8ByteSize < 65536 →
        ∀ version v, (version, v) ∈ entriesUnder ns name m ↔
          ∃ info, ModuleInfo.validate info = .ok () ∧ info.ns = ns ∧ info.name = name ∧
            version = .ok info.version ∧ m.lookup (storageKey info) = some v := by
  refine ⟨?_, ?_, ?_⟩
  · intro info valid
    exact ⟨infoFromVec_storageKey unversioned valid, fromId_moduleId valid⟩
  · intro info info' valid valid' other same
    exact other (storageKey_injective unversioned valid valid' same)
  · intro ν m modules ns name ns_ name_ version v
    exact mem_entriesUnder unversioned modules ns_ name_

end Keys

section Sample

attribute [local instance] releaseCrates

def accountInfo : ModuleInfo := { ns := ⟨"abstract"⟩, name := "account", version := .Version "1.0.0" }

theorem module_info_roundtrip_account :
    infoFromVec (storageKey accountInfo) = .ok accountInfo ∧
      ModuleInfo.fromId "abstract:account" (.Version "1.0.0") = .ok accountInfo ∧
      (Except.ok (.Version "1.0.0"), 7) ∈ entriesUnder ⟨"abstract"⟩ "account"
        ((∅ : Map Bytes Nat).insert (storageKey accountInfo) 7) := by
  have unversioned : ∀ v, Crates.parseVersion "latest" ≠ .ok v := by
    intro v parsed
    cases parsed
  have valid : accountInfo.validate = .ok () := by decide +kernel
  obtain ⟨given, -, under⟩ := module_info_roundtrip unversioned
  refine ⟨(given accountInfo valid).1, (given accountInfo valid).2, ?_⟩
  refine (under Nat _ ?_ _ _ (by decide) (by decide) _ _).mpr
    ⟨accountInfo, valid, rfl, rfl, rfl, AList.lookup_insert _⟩
  intro k listed
  rcases (AList.mem_insert _).mp listed with rfl | none
  · exact ⟨accountInfo, valid, rfl⟩
  · exact absurd none (AList.notMem_empty _)

end Sample

end AbstractFramework.Registry
