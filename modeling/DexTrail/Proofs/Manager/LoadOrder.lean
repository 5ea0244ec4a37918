-- SUMMARY: Rearranged notices of agreeing loads lead to the same ledger.
import DexTrail.Proofs.Manager.Loadable
import DexTrail.Proofs.Usage.Agreement

/-!
# The order of load notices

Packages tell of their loads in any order, and a package may name its files in one notice or
in many. While the registry stays as it is, a notice means the same loads whenever it comes.
So rearranged notices record the same loads in another order and another number, which
loads that agree do not notice.
-/

namespace DexTrail

/-- A package tells of dex files that it loads. -/
structure LoadNotice where
  loader : PackageInfo
  paths : List String
  isa : String
  user : UserId

namespace LoadNotice

/-- The loads that a notice makes known. -/
def loads (m : Manager) (n : LoadNotice) : List DexLoad :=
  if m.policy.supports n.isa then n.paths.filterMap (m.loadOf? n.loader n.isa n.user) else []

/-- One notice for each path. -/
def single (n : LoadNotice) : List LoadNotice := n.paths.map fun path => { n with paths := [path] }

/-- The same notices with their order, the order and the number of the paths in a notice, or
the division of paths into notices changed. -/
inductive Rearranges : List LoadNotice → List LoadNotice → Prop where
  | perm {notices notices'} (h : notices.Perm notices') : Rearranges notices notices'
  | paths (n) {paths'} (h : ∀ path, path ∈ n.paths ↔ path ∈ paths') (notices) :
    Rearranges (n :: notices) ({ n with paths := paths' } :: notices)
  | split (n notices) : Rearranges (n :: notices) (n.single ++ notices)
  | symm {notices notices'} (h : Rearranges notices notices') : Rearranges notices' notices
  | trans {notices notices' notices''} (h : Rearranges notices notices')
    (h' : Rearranges notices' notices'') : Rearranges notices notices''

/-! ## Loads -/

variable {m : Manager} {d : DexLoad}

/-- A load is made known by a path in a supported instruction set. -/
theorem mem_loads_iff {n : LoadNotice} :
    d ∈ n.loads m ↔
      m.policy.supports n.isa ∧
        ∃ path ∈ n.paths, m.loadOf? n.loader n.isa n.user path = some d := by
  unfold loads
  split
  · next h => simp [h, List.mem_filterMap]
  · next h => simp [h]

theorem mem_flatMap_loads_single {n : LoadNotice} :
    d ∈ n.single.flatMap (·.loads m) ↔ d ∈ n.loads m := by
  simp only [single, List.mem_flatMap, List.mem_map, mem_loads_iff]
  constructor
  · rintro ⟨-, ⟨path, hpath, rfl⟩, hisa, path', hpath', hd⟩
    obtain rfl := List.mem_singleton.1 hpath'
    exact ⟨hisa, path', hpath, hd⟩
  · rintro ⟨hisa, path, hpath, hd⟩
    exact ⟨_, ⟨path, hpath, rfl⟩, hisa, path, List.mem_singleton_self path, hd⟩

/-- Rearranged notices make the same loads known. -/
theorem Rearranges.mem_loads_iff {notices notices' : List LoadNotice}
    (h : Rearranges notices notices') :
    d ∈ notices.flatMap (·.loads m) ↔ d ∈ notices'.flatMap (·.loads m) := by
  induction h with
  | perm h => simp only [List.mem_flatMap, h.mem_iff]
  | paths n h notices =>
    simp only [List.flatMap_cons, List.mem_append, LoadNotice.mem_loads_iff, h]
  | split n notices =>
    rw [List.flatMap_cons, List.flatMap_append, List.mem_append, List.mem_append,
      mem_flatMap_loads_single]
  | symm _ ih => exact ih.symm
  | trans _ _ ih ih' => exact ih.trans ih'

end LoadNotice

/-! ## Notices one after another -/

namespace Manager

/-- Take up notices one after another. -/
def noteLoads (m : Manager) (notices : List LoadNotice) : Manager :=
  notices.foldl (fun m n => m.noteLoad n.loader n.paths n.isa n.user) m

/-- A notice records its loads. It changes neither the policy nor the registry. -/
theorem noteLoad_eq (m : Manager) (n : LoadNotice) :
    (m.noteLoad n.loader n.paths n.isa n.user).ledger = m.ledger.recordEach (n.loads m) ∧
    (m.noteLoad n.loader n.paths n.isa n.user).policy = m.policy ∧
    (m.noteLoad n.loader n.paths n.isa n.user).registry = m.registry := by
  unfold noteLoad LoadNotice.loads
  split
  · exact ⟨Ledger.fst_recordAll _ _, rfl, rfl⟩
  · exact ⟨rfl, rfl, rfl⟩

/-- What a notice makes known depends on the policy and the registry. -/
theorem loads_congr {m m' : Manager} (hpolicy : m'.policy = m.policy)
    (hregistry : m'.registry = m.registry) (n : LoadNotice) : n.loads m' = n.loads m := by
  have hload : m'.loadOf? n.loader n.isa n.user = m.loadOf? n.loader n.isa n.user := by
    funext path
    unfold loadOf? resolve
    rw [hpolicy, hregistry]
  unfold LoadNotice.loads
  rw [hpolicy, hload]

/-- Notices record the loads that they make known at the start, in their order. -/
theorem ledger_noteLoads (m : Manager) (notices : List LoadNotice) :
    (m.noteLoads notices).ledger = m.ledger.recordEach (notices.flatMap (·.loads m)) := by
  induction notices generalizing m with
  | nil => rfl
  | cons n notices ih =>
    obtain ⟨hledger, hpolicy, hregistry⟩ := m.noteLoad_eq n
    have hrest := ih (m.noteLoad n.loader n.paths n.isa n.user)
    simp only [loads_congr hpolicy hregistry, hledger] at hrest
    rw [List.flatMap_cons, Ledger.recordEach, List.foldl_append]
    exact hrest

/-- A path that makes no load known, or whose load is refused, might as well not be named. -/
theorem ledger_noteLoad_of_idle {m : Manager} {loader : PackageInfo} {before after : List String}
    {path isa : String} {user : UserId}
    (h : ∀ d, m.loadOf? loader isa user path = some d →
      ∃ e, ((m.noteLoad loader before isa user).ledger.record d).2 = .error e) :
    (m.noteLoad loader (before ++ path :: after) isa user).ledger =
      (m.noteLoad loader (before ++ after) isa user).ledger := by
  have hledger (paths : List String) := (m.noteLoad_eq ⟨loader, paths, isa, user⟩).1
  dsimp only at hledger
  rw [hledger, hledger]
  simp only [hledger before, LoadNotice.loads] at h ⊢
  cases hisa : m.policy.supports isa with
  | false => rfl
  | true =>
    simp only [hisa, if_true] at h ⊢
    rw [List.filterMap_append, List.filterMap_append, List.filterMap_cons]
    cases hload : m.loadOf? loader isa user path with
    | none => rfl
    | some d =>
      -- the load meets the ledger that the paths before it leave, and that is kept
      obtain ⟨e, he⟩ := h d hload
      simp only [Ledger.recordEach, List.foldl_append, List.foldl_cons] at he ⊢
      rw [Ledger.record_of_error he]

/-- Notices of agreeing loads lead to the same ledger however they are rearranged. In any
notice, a path that makes no load known or whose load is refused changes nothing for the
others. -/
theorem ledger_noteLoads_congr {m : Manager} {notices notices' : List LoadNotice}
    (h : LoadNotice.Rearranges notices notices')
    (hagree : ∀ d ∈ notices.flatMap (·.loads m), ∀ d' ∈ notices.flatMap (·.loads m), d.Agrees d') :
    (m.noteLoads notices).ledger = (m.noteLoads notices').ledger ∧
    ∀ loader before path after isa user,
      (∀ d, m.loadOf? loader isa user path = some d →
        ∃ e, ((m.noteLoad loader before isa user).ledger.record d).2 = .error e) →
      (m.noteLoad loader (before ++ path :: after) isa user).ledger =
        (m.noteLoad loader (before ++ after) isa user).ledger := by
  refine ⟨?_, fun _ _ _ _ _ _ hidle => ledger_noteLoad_of_idle hidle⟩
  rw [ledger_noteLoads, ledger_noteLoads]
  exact Ledger.recordEach_congr hagree (fun _ => h.mem_loads_iff) m.ledger

/-- A package with one data directory and no code but its base. -/
def dataApp (name : String) : PackageInfo where
  name := name
  uid := 0
  base := "/app/" ++ name ++ ".apk"
  splits := []
  dataDir := some ("/data/" ++ name)
  deviceDir := none
  credentialDir := none
  volume := none
  isas := []

/-- A manager that knows one package. One of its files is recorded for another user. -/
def oneApp : Manager where
  policy := ⟨[], ["arm64"], .empty⟩
  registry := Registry.empty.addPackage (dataApp "a") 0
  store := Store.empty.update
    (recordAll .empty [⟨"a", "/data/a/y", 10, "arm64", false, false⟩])

/-- The package loads three of its files, another package loads one of them. The second of
the three files is refused. The other package may come first, and the files singly. -/
theorem ledger_noteLoads_oneApp :
    let own : LoadNotice := ⟨dataApp "a", ["/data/a/x", "/data/a/y", "/data/a/z"], "arm64", 0⟩
    let other : LoadNotice := ⟨dataApp "b", ["/data/a/x"], "arm64", 0⟩
    (oneApp.noteLoads [own, other]).ledger =
      (oneApp.noteLoads ({ other with paths := ["/data/a/x", "/data/a/x"] } :: own.single)).ledger ∧
    (oneApp.noteLoad own.loader own.paths "arm64" 0).ledger =
      (oneApp.noteLoad own.loader ["/data/a/x", "/data/a/z"] "arm64" 0).ledger := by
  intro own other
  have hpaths : ∀ path, path ∈ other.paths ↔ path ∈ ["/data/a/x", "/data/a/x"] := by simp [other]
  have h : LoadNotice.Rearranges [own, other]
      ({ other with paths := ["/data/a/x", "/data/a/x"] } :: own.single) :=
    .trans (.split own [other]) (.trans (.perm (List.perm_append_singleton other own.single))
      (.paths other hpaths own.single))
  obtain ⟨hsame, hidle⟩ := ledger_noteLoads_congr (m := oneApp) h (by decide +kernel)
  refine ⟨hsame, hidle own.loader ["/data/a/x"] "/data/a/y" ["/data/a/z"] "arm64" 0 ?_⟩
  intro d hd
  have hload : oneApp.loadOf? own.loader "arm64" 0 "/data/a/y" =
      some ⟨"a", "/data/a/y", 0, "arm64", false, false⟩ := by decide +kernel
  obtain rfl := Option.some.inj (hload.symm.trans hd)
  exact ⟨⟨"a", "/data/a/y", 10, 0⟩, by decide +kernel⟩

end Manager

end DexTrail
