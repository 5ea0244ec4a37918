-- SUMMARY: A ledger that is written to its file is read back, exactly when its records pass the checks.
import DexTrail.Proofs.Json.Decoding
import DexTrail.Proofs.Json.RoundTrip
import DexTrail.Proofs.Usage.AtomicWrite

/-!
# The ledger document, written and read

Decoding undoes encoding for every ledger, whatever texts and users its records
hold. What stands between a written ledger and reading it back are the checks
alone: reading answers the ledger when it is valid (`Ledger.IsValid`), and a fault of
its records when it is not.
-/

namespace DexTrail

open Json

/-! ## Encoders write what the reader understands -/

theorem UsageRecord.isWritten_encode (r : UsageRecord) : r.encode.IsWritten := by
  apply Value.isWritten_ofMembers
  intro m hm
  simp only [List.mem_cons, List.not_mem_nil, or_false] at hm
  rcases hm with rfl | rfl | rfl | rfl
  · exact .ofInt _
  · exact Value.isWritten_ofStrings _
  · exact .bool _
  · exact .bool _

theorem PackageUsage.isWritten_encode (u : PackageUsage) : u.encode.IsWritten := by
  apply Value.isWritten_ofMembers
  intro m hm
  obtain rfl := List.mem_singleton.1 hm
  apply Value.isWritten_ofMembers
  intro m hm
  obtain ⟨e, -, rfl⟩ := List.mem_map.1 hm
  exact e.2.isWritten_encode

theorem Ledger.isWritten_encodePackages (l : Ledger) : l.encodePackages.IsWritten := by
  apply Value.isWritten_ofMembers
  intro m hm
  obtain ⟨e, -, rfl⟩ := List.mem_map.1 hm
  exact PackageUsage.isWritten_encode e.2

/-! ## Decoding undoes encoding -/

@[simp] theorem UsageRecord.decode_encode (r : UsageRecord) : decode r.encode = some r := by
  have hfields := Decode.fields_ofMembers [
    ("owner_user_id", .ofInt r.owner.toInt),
    ("loader_isas", .ofStrings r.isas.toList),
    ("used_by_other_apps", .bool r.shared),
    ("primary_or_split", .bool r.code)] (by simp)
  simp only [List.map_cons, List.map_nil] at hfields
  simp [decode, encode, hfields, Decode.required, Decode.defaulted]

@[simp] theorem PackageUsage.decode_encode (u : PackageUsage) : decode u.encode = some u := by
  have hfields (files : Value) :
      Decode.fields ["dex_files"] (.ofMembers [("dex_files", files)]) = some [some files] :=
    Decode.fields_ofMembers [("dex_files", files)] (by simp)
  simp only [decode, encode, hfields, Option.bind_eq_bind, Option.bind_some, Decode.defaulted]
  exact Decode.map_ofMembers UsageRecord.decode_encode u

@[simp] theorem Ledger.decodePackages_encodePackages (l : Ledger) :
    decodePackages l.encodePackages = some l := by
  rw [decodePackages, encodePackages, Decode.map_ofMembers PackageUsage.decode_encode]
  rfl

/-! ## Valid ledgers -/

/-- What a record must satisfy to be read from a document. -/
structure UsageRecord.IsValid (path : String) (r : UsageRecord) : Prop where
  absolute : Path.isAbsolute path
  isas : r.isas.isEmpty = false

/-- What a package must satisfy: it has a name, and its records are valid. -/
structure PackageUsage.IsValid (package : String) (u : PackageUsage) : Prop where
  name : package ≠ ""
  records : ∀ path r, u.get? path = some r → r.IsValid path

/-- Every package of the ledger passes the checks, those without records included. -/
def Ledger.IsValid (l : Ledger) : Prop :=
  ∀ package u, l.usage? package = some u → PackageUsage.IsValid package u

theorem UsageRecord.fault?_eq_none_iff {package path : String} {r : UsageRecord} :
    r.fault? package path = none ↔ r.IsValid path := by
  unfold fault?
  constructor
  · intro h
    split at h
    · cases h
    · next ha =>
      split at h
      · cases h
      · next hi => exact ⟨by simpa using ha, Bool.eq_false_iff.2 hi⟩
  · rintro ⟨ha, hi⟩
    simp [ha, hi]

theorem PackageUsage.fault?_eq_none_iff {package : String} {u : PackageUsage} :
    u.fault? package = none ↔ PackageUsage.IsValid package u := by
  unfold fault?
  constructor
  · intro h
    split at h
    · cases h
    · next hne =>
      refine ⟨fun he => hne (by simp [he]), fun path r hr => ?_⟩
      have hrec := List.findSome?_eq_none_iff.1 h (path, r) (SortedMap.mem_toList_iff.2 hr)
      exact UsageRecord.fault?_eq_none_iff.1 hrec
  · rintro ⟨hne, hrec⟩
    rw [if_neg (by simpa using hne)]
    apply List.findSome?_eq_none_iff.2
    intro e he
    exact UsageRecord.fault?_eq_none_iff.2 (hrec e.1 e.2 (SortedMap.mem_toList_iff.1 he))

theorem Ledger.fault?_eq_none_iff {l : Ledger} : l.fault? = none ↔ l.IsValid := by
  unfold fault?
  rw [List.findSome?_eq_none_iff]
  constructor
  · intro h p u hu
    exact PackageUsage.fault?_eq_none_iff.1 (h (p, u) (SortedMap.mem_toList_iff.2 hu))
  · intro h e he
    exact PackageUsage.fault?_eq_none_iff.2 (h e.1 e.2 (SortedMap.mem_toList_iff.1 he))

/-! ## Documents -/

namespace LedgerDocument

/-- Only the checks stand between a written ledger and reading it. -/
theorem read_write (l : Ledger) :
    read (symbols (write l).toUTF8) =
      match l.fault? with
      | some fault => .error (.corrupt fault)
      | none => .ok l := by
  have hwritten : (Value.ofMembers [("version", .ofInt version.toNat),
      ("packages", l.encodePackages)]).IsWritten := by
    apply Value.isWritten_ofMembers
    intro m hm
    simp only [List.mem_cons, List.not_mem_nil, or_false] at hm
    rcases hm with rfl | rfl
    · exact .ofInt _
    · exact l.isWritten_encodePackages
  have hfields := Decode.fields_ofMembers [
    ("version", .ofInt version.toNat), ("packages", l.encodePackages)] (by simp)
  simp only [List.map_cons, List.map_nil] at hfields
  have hdecode : decode (.ofMembers [("version", .ofInt version.toNat),
      ("packages", l.encodePackages)]) = some (version, l) := by
    simp [decode, hfields, Decode.required, Decode.defaulted]
  rw [read, symbols_toUTF8, write, hwritten.read?_print, Option.bind_some, hdecode]
  rfl

theorem read_write_of_isValid {l : Ledger} (h : l.IsValid) :
    read (symbols (write l).toUTF8) = .ok l := by
  rw [read_write, Ledger.fault?_eq_none_iff.2 h]

theorem read_write_of_not_isValid {l : Ledger} (h : ¬l.IsValid) :
    ∃ fault, read (symbols (write l).toUTF8) = .error (.corrupt fault) := by
  cases hf : l.fault? with
  | none => exact absurd (Ledger.fault?_eq_none_iff.1 hf) h
  | some fault => exact ⟨fault, by rw [read_write, hf]⟩

/-- Reading answers only ledgers that pass the checks. -/
theorem isValid_of_read {doc : List Symbol} {l : Ledger} (h : read doc = .ok l) : l.IsValid := by
  unfold read at h
  split at h
  · cases h
  · split at h
    · cases h
    · split at h
      · cases h
      · next hf =>
        cases h
        exact Ledger.fault?_eq_none_iff.1 hf

end LedgerDocument

/-! ## Files -/

namespace LedgerFile

theorem isValid_of_read {f : LedgerFile} {l : Ledger} {t : FileTree}
    (h : f.read t = .ok (some l)) : l.IsValid := by
  unfold read at h
  split at h
  · next content _ =>
    cases hd : LedgerDocument.read (symbols content) with
    | error e =>
      rw [hd] at h
      cases h
    | ok found =>
      rw [hd] at h
      cases h
      exact LedgerDocument.isValid_of_read hd
  all_goals cases h

/-- After a successful write the file holds the document of the ledger. -/
theorem read_of_write {f : LedgerFile} {l : Ledger} {t : FileTree} (h : (f.write l t).2 = true) :
    (f.write l t).1.read f.cwd f.path = .ok (LedgerDocument.write l).toUTF8 := by
  have hends := f.ends_write l t
  rw [h] at hends
  exact (hends.isReplaced (f.isClear_unlinked _)).path

theorem read_write {f : LedgerFile} {l : Ledger} {t : FileTree} (h : (f.write l t).2 = true) :
    f.read (f.write l t).1 =
      (LedgerDocument.read (symbols (LedgerDocument.write l).toUTF8)).map some := by
  rw [read, read_of_write h]

/-- A ledger that is written is read back exactly when it is valid, and its file is
corrupt otherwise. So a ledger that was read from any document comes back the same
when it is written and read again. -/
theorem round_trip (l : Ledger) :
    (LedgerDocument.read (symbols (LedgerDocument.write l).toUTF8) = .ok l ↔ l.IsValid) ∧
    (¬l.IsValid → ∃ fault,
      LedgerDocument.read (symbols (LedgerDocument.write l).toUTF8) = .error (.corrupt fault)) ∧
    (∀ doc, LedgerDocument.read doc = .ok l →
      LedgerDocument.read (symbols (LedgerDocument.write l).toUTF8) = .ok l) ∧
    ∀ f (t : FileTree), (write f l t).2 = true →
      (read f (write f l t).1 = .ok (some l) ↔ l.IsValid) ∧
      (¬l.IsValid → ∃ fault, read f (write f l t).1 = .error (.corrupt fault)) ∧
      ∀ g (t₀ : FileTree), read g t₀ = .ok (some l) → read f (write f l t).1 = .ok (some l) := by
  have hdoc : LedgerDocument.read (symbols (LedgerDocument.write l).toUTF8) = .ok l ↔
      l.IsValid := by
    refine ⟨LedgerDocument.isValid_of_read, LedgerDocument.read_write_of_isValid⟩
  refine ⟨hdoc, LedgerDocument.read_write_of_not_isValid, ?_, ?_⟩
  · intro doc h
    exact hdoc.2 (LedgerDocument.isValid_of_read h)
  · intro f t h
    have hfile : read f (write f l t).1 = .ok (some l) ↔ l.IsValid := by
      rw [read_write h, ← hdoc]
      cases LedgerDocument.read (symbols (LedgerDocument.write l).toUTF8) <;> simp [Except.map]
    refine ⟨hfile, ?_, ?_⟩
    · intro hl
      obtain ⟨fault, hf⟩ := LedgerDocument.read_write_of_not_isValid hl
      exact ⟨fault, by rw [read_write h, hf]; rfl⟩
    · intro g t₀ hg
      exact hfile.2 (isValid_of_read hg)

end LedgerFile

end DexTrail
