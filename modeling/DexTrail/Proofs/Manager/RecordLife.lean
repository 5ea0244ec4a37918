-- SUMMARY: What may become of a record in a call that does not load: it goes, or it stays with its owner and kind and only grows.
import DexTrail.Proofs.Manager.CallHistory
import DexTrail.Proofs.Manager.LoadOrder
import DexTrail.Proofs.Manager.Requests

/-!
# Life of a record

Loads and registrations only add to the ledger: a record takes up what is new of a load, and its
owner and kind stay. Every other call that leaves the ledger of the file alone only takes records
away, and none comes back within the call. So a record that lives through any number of such
calls has its owner and kind from its first load.
-/

namespace DexTrail

variable {ω : Type} {services : Services ω} {file : LedgerFile} {m : Manager} {t : FileTree}
  {w : ω} {c : Call} {p path : String} {r r' : UsageRecord}

/-! ## Ledgers that shrink -/

namespace Ledger

theorem shrinks_removePackage (l : Ledger) (package : String) :
    l.Shrinks (l.removePackage package).1 := by
  intro p path r hr
  rw [record?_removePackage] at hr
  split at hr
  · cases hr
  · exact hr

theorem shrinks_sync (l : Ledger) (installed : SortedMap String (SortedSet UserId)) :
    l.Shrinks (l.sync installed).1 := by
  intro p path r hr
  rw [record?_sync] at hr
  exact (Option.filter_eq_some_iff.1 hr).1

/-- Where nothing is recorded, every ledger that follows has records of the first one only. -/
theorem isKept_shrinks (l : Ledger) : IsKept (fun _ => False) l.Shrinks where
  record _ hd := hd.elim
  restrict package keep h := isOneWay_shrinks.trans h (shrinks_restrict _ package keep)
  removePackage package h := isOneWay_shrinks.trans h (shrinks_removePackage _ package)
  sync installed h := isOneWay_shrinks.trans h (shrinks_sync _ installed)

end Ledger

/-! ## Calls -/

namespace Manager

/-- A call that neither loads nor has a loader adds no record and changes none. -/
theorem shrinks_perform (file : LedgerFile) (m : Manager) (t : FileTree)
    (hc : c.loads services w = false) (hloader : c.loader? = none) :
    m.ledger.Shrinks (m.perform services file t w c).1.ledger := by
  refine ledger_perform_of_not_loads m.ledger.isKept_shrinks file t hc ?_
    (Ledger.isOneWay_shrinks.refl m.ledger)
  intro d hd
  have hsome := isSome_loader?_of_mem_loadsOf hd
  rw [hloader] at hsome
  cases hsome

/-- A record that a call leaves in place only grows, unless the call loads. -/
theorem extends_perform (hc : c.loads services w = false)
    (hr : m.ledger.record? p path = some r)
    (hr' : (m.perform services file t w c).1.ledger.record? p path = some r') :
    r.Extends r' := by
  cases hloader : c.loader? with
  | none =>
    have hsame := shrinks_perform file m t hc hloader p path r' hr'
    obtain rfl := Option.some.inj (hr.symm.trans hsame)
    exact .refl r
  | some loader =>
    rw [ledger_perform services file m t w (Option.isSome_iff_exists.2 ⟨loader, hloader⟩)] at hr'
    obtain ⟨r'', hr'', hextends⟩ := Ledger.exists_extends_recordEach hr (m.loadsOf services w c)
    obtain rfl := Option.some.inj (hr''.symm.trans hr')
    exact hextends

/-- In any state of the manager, and whatever the services answer, a call that does not take the
ledger of the file keeps the owner and the kind of every record that it leaves in place; the
record loses no instruction set, and it stays shared if it was. A call in which no package loads
or registers a file, such as an update, the destruction of data, compiling, reconciling and
maintenance, moreover leaves every record that survives exactly as it was and adds none. -/
theorem record_survives_perform (services : Services ω) (file : LedgerFile) (m : Manager)
    (t : FileTree) (w : ω) {c : Call} (hc : c.loads services w = false) :
    let after := (m.perform services file t w c).1
    (∀ p path r r', m.ledger.record? p path = some r → after.ledger.record? p path = some r' →
      r'.owner = r.owner ∧ r'.code = r.code ∧ (∀ isa ∈ r.isas, isa ∈ r'.isas) ∧
        (r.shared → r'.shared)) ∧
    (c.loader? = none → ∀ p path r', after.ledger.record? p path = some r' →
      m.ledger.record? p path = some r') := by
  intro after
  refine ⟨?_, fun hloader => shrinks_perform file m t hc hloader⟩
  intro p path r r' hr hr'
  obtain ⟨howner, hcode, hisas, hshared⟩ := extends_perform hc hr hr'
  exact ⟨howner, hcode, hisas, hshared⟩

/-- Another package loads a file of which the record is not shared yet. Its owner stays, and it is
shared from then on. Compiling drops it, since nothing is installed, and leaves no other record. -/
theorem record_survives_perform_oneApp :
    let file : LedgerFile := ⟨"usage.json", []⟩
    let call (m : Manager) (c : Call) : Manager :=
      (m.perform Rehearsal.services file .empty .empty c).1
    let known := call oneApp (.noteInstalled (dataApp "a") 10)
    let shared := call known (.noteLoad (dataApp "b") ["/data/a/y"] "arm64" 10)
    let compiled := call shared (.optimize "a" (.reason .backgroundDexopt) false false)
    (∃ r r', known.ledger.record? "a" "/data/a/y" = some r ∧
      shared.ledger.record? "a" "/data/a/y" = some r' ∧ r.shared = false ∧ r'.shared = true ∧
      r'.owner = r.owner ∧ r'.code = r.code) ∧
    compiled.ledger.record? "a" "/data/a/y" = none ∧
    ∀ p path r, compiled.ledger.record? p path = some r → shared.ledger.record? p path = some r := by
  intro file call known shared compiled
  refine ⟨⟨.ofLoad 10 "arm64" false false, .ofLoad 10 "arm64" true false, ?_⟩, ?_, ?_⟩
  · have hr : known.ledger.record? "a" "/data/a/y" = some (.ofLoad 10 "arm64" false false) := by
      decide +kernel
    have hr' : shared.ledger.record? "a" "/data/a/y" = some (.ofLoad 10 "arm64" true false) := by
      decide +kernel
    obtain ⟨howner, hcode, -⟩ :=
      (record_survives_perform Rehearsal.services file known .empty .empty rfl).1 _ _ _ _ hr hr'
    exact ⟨hr, hr', rfl, rfl, howner, hcode⟩
  · decide +kernel
  · exact (record_survives_perform Rehearsal.services file shared .empty .empty rfl).2 rfl

end Manager

end DexTrail
