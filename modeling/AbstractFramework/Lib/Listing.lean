import Mathlib.Data.List.Forall2
import AbstractFramework.Lib.Fallible
import AbstractFramework.Lib.Paging
import AbstractFramework.Lib.Ranges

/-! # Listings of a map

A map stores its entries under the bytes of their keys.  A page of it is cut from the range
after the bytes of the key to start from, and the keys in the page are decoded.  Where the
bytes of every stored key are decoded to a key that has these bytes, the pages list the map
(`pages`).
-/

namespace Listing

open Fallible Storage Paging

variable {ε κ ν : Type}

/-- A page of the entries after `start`. -/
def page (encode : κ → Except ε Bytes) (decode : Bytes → Except ε κ) (m : Map Bytes ν) (limit : Nat)
    (start : Option κ) : Except ε (List (κ × ν)) := do
  let bound ← start.mapM encode
  ((range id bound (under some m)).take limit).mapM fun e => do
    let key ← decode e.1
    return (key, e.2)

/-- The entries of some keys, which all have to be there. -/
def lookups (encode : κ → Except ε Bytes) (missing : ε) (m : Map Bytes ν) (keys : List κ) :
    Except ε (List (κ × ν)) :=
  keys.mapM fun key => do
    let bytes ← encode key
    let v ← okOr (m.lookup bytes) missing
    return (key, v)

/-- The bytes are those of a key to which they are decoded. -/
def Codes (encode : κ → Except ε Bytes) (decode : Bytes → Except ε κ) (key : κ) (bytes : Bytes) :
    Prop :=
  encode key = .ok bytes ∧ decode bytes = .ok key

variable {encode : κ → Except ε Bytes} {decode : Bytes → Except ε κ} {m : Map Bytes ν} {limit : Nat}

theorem lookups_eq_ok {missing : ε} {keys : List κ} {out : List (κ × ν)} :
    lookups encode missing m keys = .ok out ↔ List.Forall₂ (fun (key : κ) (e : κ × ν) =>
      e.1 = key ∧ ∃ bytes, encode key = .ok bytes ∧ m.lookup bytes = some e.2) keys out := by
  have each : ∀ (key : κ) (e : κ × ν), (do
      let bytes ← encode key
      let v ← okOr (m.lookup bytes) missing
      return (key, v)) = Except.ok e ↔
        e.1 = key ∧ ∃ bytes, encode key = .ok bytes ∧ m.lookup bytes = some e.2 := by
    rintro key ⟨key', v⟩
    simp only [bind_eq_ok, okOr_eq_ok, pure_eq_ok, Prod.mk.injEq]
    constructor
    · rintro ⟨bytes, encodes, _, found, rfl, rfl⟩
      exact ⟨rfl, bytes, encodes, found⟩
    · rintro ⟨rfl, bytes, encodes, found⟩
      exact ⟨bytes, encodes, v, found, rfl, rfl⟩
  rw [lookups, mapM_eq_ok]
  exact ⟨fun related => related.imp fun key e => (each key e).mp,
    fun related => related.imp fun key e => (each key e).mpr⟩

/-- The listing of a map, with its keys decoded. -/
theorem exists_listing (coded : ∀ bytes ∈ m, ∃ key, Codes encode decode key bytes) :
    ∃ out : List (κ × ν), List.Forall₂
      (fun (e : Bytes × ν) (e' : κ × ν) => Codes encode decode e'.1 e.1 ∧ e'.2 = e.2)
      (range id none (under some m)) out := by
  have each : ∀ e ∈ range id none (under some m), ∃ e' : κ × ν,
      Codes encode decode e'.1 e.1 ∧ e'.2 = e.2 := by
    rintro ⟨bytes, v⟩ listed
    obtain ⟨_, found, isKey⟩ := mem_under.mp (mem_range.mp listed).1
    cases isKey
    obtain ⟨key, codes⟩ := coded bytes (mem_of_lookup found)
    exact ⟨(key, v), codes, rfl⟩
  generalize range id none (under some m) = entries at each
  induction entries with
  | nil => exact ⟨[], .nil⟩
  | cons e entries ih =>
    obtain ⟨e', here⟩ := each e List.mem_cons_self
    obtain ⟨out, rest⟩ := ih fun x listed => each x (List.mem_cons_of_mem e listed)
    exact ⟨e' :: out, .cons here rest⟩

/-- Entries with coded keys are decoded. -/
theorem mapM_decode {entries : List (Bytes × ν)} {out : List (κ × ν)}
    (codes : List.Forall₂ (fun (e : Bytes × ν) (e' : κ × ν) =>
      Codes encode decode e'.1 e.1 ∧ e'.2 = e.2) entries out) :
    (entries.mapM fun e => do
      let key ← decode e.1
      return (key, e.2)) = .ok out := by
  refine mapM_eq_ok.mpr (codes.imp ?_)
  rintro ⟨bytes, v⟩ ⟨key, _⟩ ⟨⟨_, decodes⟩, rfl⟩
  simp only [decodes, ok_bind]
  rfl

/-- Where a listing is split, what is decoded is split too. -/
theorem forall₂_split {α β : Type} {R : α → β → Prop} {l : List α} {before rest : List β} {x : β}
    (related : List.Forall₂ R l (before ++ x :: rest)) :
    ∃ before' x' rest', l = before' ++ x' :: rest' ∧ R x' x ∧ List.Forall₂ R rest' rest := by
  have tail : List.Forall₂ R (l.drop before.length) (x :: rest) :=
    List.forall₂_drop_append l before (x :: rest) related
  obtain ⟨x', rest', here, later, split⟩ := List.forall₂_cons_right_iff.mp tail
  refine ⟨l.take before.length, x', rest', ?_, here, later⟩
  rw [← split, List.take_append_drop]

/-- The page after an entry goes on with the listing. -/
theorem page_after {out before rest : List (κ × ν)} {x : κ × ν}
    (codes : List.Forall₂ (fun (e : Bytes × ν) (e' : κ × ν) =>
      Codes encode decode e'.1 e.1 ∧ e'.2 = e.2) (range id none (under some m)) out)
    (split : out = before ++ x :: rest) :
    page encode decode m limit (some x.1) = .ok (rest.take limit) := by
  have distinct : ((under some m).map fun e => id e.1).Nodup := under_nodup some_determines
  obtain ⟨before', x', rest', listed, ⟨⟨encodes, _⟩, _⟩, later⟩ := forall₂_split (split ▸ codes)
  have bound : (some x.1).mapM encode = .ok (some x'.1) := by
    rw [Option.mapM_some, encodes]
    rfl
  rw [page, bound, ok_bind, range_resume distinct listed]
  exact mapM_decode (List.forall₂_take limit later)

/-- The keys of a page are decoded from the bytes of stored ones. -/
theorem mem_page {start : Option κ} {cut : List (κ × ν)} {e : κ × ν}
    (ok : page encode decode m limit start = .ok cut) (listed : e ∈ cut) :
    ∃ bytes ∈ m, decode bytes = .ok e.1 := by
  obtain ⟨bound, -, mapped⟩ := bind_eq_ok.mp ok
  obtain ⟨⟨bytes, v⟩, taken, decoded⟩ := forall₂_exists_left (mapM_eq_ok.mp mapped) e listed
  obtain ⟨key, decodes, isEntry⟩ := bind_eq_ok.mp decoded
  obtain rfl := Except.ok.inj isEntry
  obtain ⟨_, found, isKey⟩ := mem_under.mp (mem_range.mp (List.mem_of_mem_take taken)).1
  cases isKey
  exact ⟨bytes, mem_of_lookup found, decodes⟩

/-- A page of one entry has the least one after its start. -/
theorem page_one {start : Option κ} {bound : Option Bytes} {bytes : Bytes}
    (starts : start.mapM encode = .ok bound) (stored : bytes ∈ m)
    (after : isAfter id bound bytes = true) :
    ∃ least ∈ m, least ≤ bytes ∧ ∀ key, decode least = .ok key →
      ∃ v, page encode decode m 1 start = .ok [(key, v)] := by
  obtain ⟨v, found⟩ := mem_iff_lookup.mp stored
  have listed : (bytes, v) ∈ range id bound (under some m) :=
    mem_range.mpr ⟨mem_under.mpr ⟨bytes, found, rfl⟩, after⟩
  have ordered : (range id bound (under some m)).Pairwise fun a b => id a.1 ≤ id b.1 :=
    range_ordered
  have inMap : ∀ e ∈ range id bound (under some m), e.1 ∈ m := by
    rintro ⟨bytes', v'⟩ inRange
    obtain ⟨_, found', isKey⟩ := mem_under.mp (mem_range.mp inRange).1
    cases isKey
    exact mem_of_lookup found'
  rw [page, starts, ok_bind]
  cases entries : range id bound (under some m) with
  | nil =>
    rw [entries] at listed
    cases listed
  | cons least rest =>
    rw [entries] at listed ordered inMap
    refine ⟨least.1, inMap least List.mem_cons_self, ?_, fun key decodes => ⟨least.2, ?_⟩⟩
    · rcases List.mem_cons.mp listed with rfl | later
      · exact List.le_refl _
      · exact List.rel_of_pairwise_cons ordered later
    · rw [List.take_succ_cons, List.take_zero, List.mapM_cons, decodes]
      rfl

/-- A client who asks for one entry at a time does not get past bytes up to which all are
    decoded to keys with lesser ones. -/
theorem one_by_one_endless {bytes : Bytes} (stored : bytes ∈ m)
    (lesser : ∀ b ∈ m, b ≤ bytes → ∃ key b', decode b = .ok key ∧ encode key = .ok b' ∧ b' < bytes)
    {out : List (κ × ν)} : ¬ Collects (page encode decode m 1) Prod.fst none out := by
  refine not_collects_of_next
    (fun start => ∃ bound, start.mapM encode = .ok bound ∧ isAfter id bound bytes = true) ?_
    ⟨none, rfl, rfl⟩
  rintro start ⟨bound, starts, after⟩
  obtain ⟨least, inMap, le, answer⟩ := page_one starts stored after
  obtain ⟨key, b', decodes, encodes, less⟩ := lesser least inMap le
  obtain ⟨v, answer⟩ := answer key decodes
  refine ⟨[(key, v)], (key, v), answer, rfl, some b', ?_, by simpa [isAfter] using less⟩
  rw [Option.mapM_some, encodes]
  rfl

/-- Every entry that is stored under the bytes of a key is listed once, in pages. -/
theorem pages (coded : ∀ bytes ∈ m, ∃ key, Codes encode decode key bytes) (positive : 0 < limit) :
    PagesExactly (page encode decode m limit) limit
      fun key v => ∃ bytes, Codes encode decode key bytes ∧ m.lookup bytes = some v := by
  obtain ⟨out, codes⟩ := exists_listing coded
  refine ⟨?_, out, ?_, ?_, ?_⟩
  · intro start cut ok
    obtain ⟨bound, -, mapped⟩ := bind_eq_ok.mp ok
    rw [← (mapM_eq_ok.mp mapped).length_eq]
    exact List.length_take_le _ _
  · rw [← List.map_id out]
    refine collects_all positive ?_ ?_
    · rw [List.map_id]
      exact mapM_decode (List.forall₂_take limit codes)
    · intro before x rest split
      rw [List.map_id]
      exact page_after codes split
  · have keys : ((range id none (under some m)).map Prod.fst).Nodup :=
      range_keys_nodup (under_nodup some_determines)
    have encoded : out.map (fun e => encode e.1) =
        ((range id none (under some m)).map Prod.fst).map Except.ok := by
      rw [List.map_map, eq_comm, ← List.forall₂_eq_eq_eq, List.forall₂_map_left_iff,
        List.forall₂_map_right_iff]
      exact codes.imp fun _ _ related => related.1.1.symm
    have apart : ((out.map Prod.fst).map encode).Nodup := by
      rw [List.map_map]
      exact encoded ▸ keys.map fun _ _ => Except.ok.inj
    exact apart.of_map
  · intro key v
    constructor
    · intro listed
      obtain ⟨⟨bytes, w⟩, inRange, codes', rfl⟩ := forall₂_exists_left codes _ listed
      obtain ⟨_, found, isKey⟩ := mem_under.mp (mem_range.mp inRange).1
      cases isKey
      exact ⟨bytes, codes', found⟩
    · rintro ⟨bytes, codes', found⟩
      have inRange : (bytes, v) ∈ range id none (under some m) :=
        mem_range.mpr ⟨mem_under.mpr ⟨bytes, found, rfl⟩, rfl⟩
      have flipped : List.Forall₂ (fun (e' : κ × ν) (e : Bytes × ν) =>
          Codes encode decode e'.1 e.1 ∧ e'.2 = e.2) out (range id none (under some m)) := codes.flip
      obtain ⟨⟨key', _⟩, inOut, codes'', rfl⟩ := forall₂_exists_left flipped _ inRange
      obtain rfl : key = key' := Except.ok.inj (codes'.2.symm.trans codes''.2)
      exact inOut

/-- Where keys are determined by their bytes, pages that are cut from the range after a stored
    key list the map. -/
theorem pages_of_range [DecidableEq κ] {bytes : κ → Bytes} {m : Map κ ν}
    {ask : Option κ → Except ε (List (κ × ν))} (injective : Function.Injective bytes)
    (positive : 0 < limit)
    (short : ∀ start cut, ask start = .ok cut → cut.length ≤ limit)
    (starts : ask none = .ok ((range bytes none (under some m)).take limit))
    (resumes : ∀ key ∈ m, ask (some key) = .ok ((range bytes (some key) (under some m)).take limit)) :
    PagesExactly ask limit fun key v => m.lookup key = some v := by
  have distinct : ((under some m).map fun e => bytes e.1).Nodup :=
    under_bytes_nodup some_determines fun _ _ _ _ same => injective same
  have listed : ∀ key v, (key, v) ∈ range bytes none (under some m) ↔ m.lookup key = some v := by
    intro key v
    rw [mem_range, mem_under]
    constructor
    · rintro ⟨⟨_, found, isKey⟩, _⟩
      cases isKey
      exact found
    · intro found
      exact ⟨⟨key, found, rfl⟩, rfl⟩
  refine ⟨short, range bytes none (under some m), ?_, range_keys_nodup (under_nodup some_determines),
    listed⟩
  rw [← List.map_id (range bytes none (under some m))]
  refine collects_all positive (by rw [List.map_id]; exact starts) ?_
  intro before x rest split
  have stored : x.1 ∈ m := mem_of_lookup ((listed x.1 x.2).mp (by rw [split]; simp))
  rw [List.map_id, ← range_resume distinct split]
  exact resumes x.1 stored

end Listing
