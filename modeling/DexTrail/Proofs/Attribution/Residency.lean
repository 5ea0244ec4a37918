-- SUMMARY: What a registry holds after any history of changes: who is known, in which order, and with which code and directories.
import DexTrail.Proofs.Attribution.Tracking
import Mathlib.Data.List.DropRight

/-!
# Residency

A package is resident in the registry from the change that makes it known until it is
removed. The changes since then (`residency`) determine its footprint, and the packages
stand in the order in which their residencies started: the longer the residency, the
earlier the place.

A change is taken up by every footprint alone (`Footprint.change`), after one was made for
a package that becomes known and before that of a removed package goes.
-/

namespace DexTrail

/-! ## Changes -/

/-- An operation of the registry with its arguments. -/
inductive Registry.Change where
  | addPackage (info : PackageInfo) (user : UserId)
  | setCode (package base : String) (splits : List String)
  | addDir (package : String) (user : UserId) (dir : String)
  | removeUser (package : String) (user : UserId)
  | remove (package : String)
  deriving DecidableEq

namespace Registry

namespace Change

/-- The footprint of the code that the change sets, without any directory. -/
def bare? : Change → Option Footprint
  | .addPackage info _ => some (.ofCode info.name info.base info.splits)
  | .setCode package base splits => some (.ofCode package base splits)
  | _ => none

/-- The base file and the splits that the change gives the package. A package to which a
change gives code is known from then on. -/
def code? (package : String) (c : Change) : Option (String × SortedSet String) :=
  match c.bare? with
  | some f => if f.package = package then some (f.base, f.splits) else none
  | none => none

/-- The data directories that the change adds to the package for the user. -/
def dirs (package : String) (user : UserId) : Change → List String
  | .addPackage info u => if info.name = package ∧ u = user then info.dataDirs else []
  | .addDir p u dir => if p = package ∧ u = user then [dir] else []
  | _ => []

end Change

def change (r : Registry) : Change → Registry
  | .addPackage info user => r.addPackage info user
  | .setCode package base splits => r.setCode package base splits
  | .addDir package user dir => (r.addDir package user dir).1
  | .removeUser package user => (r.removeUser package user).1
  | .remove package => (r.remove package).1

/-- The registry that starts empty and takes up the changes one after another. -/
def ofHistory (history : List Change) : Registry := history.foldl change empty

theorem ofHistory_append (history : List Change) (c : Change) :
    ofHistory (history ++ [c]) = (ofHistory history).change c := by
  simp [ofHistory, List.foldl_append]

/-! ## Residencies -/

/-- The changes since the package was last removed, from the first that makes it known. -/
def residency (package : String) (history : List Change) : List Change :=
  (history.rtakeWhile fun c => c != .remove package).dropWhile fun c => (c.code? package).isNone

/-- How many changes came before the residency of the package. -/
def start (package : String) (history : List Change) : Nat :=
  history.length - (residency package history).length

/-- The changes since the user of the package was last removed. -/
def sinceUser (package : String) (user : UserId) (stay : List Change) : List Change :=
  stay.rtakeWhile fun c => c != .removeUser package user

theorem sinceUser_append (package : String) (user : UserId) (stay : List Change) (c : Change) :
    sinceUser package user (stay ++ [c]) =
      if c = .removeUser package user then [] else sinceUser package user stay ++ [c] := by
  by_cases hc : c = .removeUser package user
  · simp [sinceUser, hc]
  · have hstays : (c != .removeUser package user) = true := bne_iff_ne.2 hc
    rw [sinceUser, List.rtakeWhile_concat, if_pos hstays, if_neg hc, sinceUser]

theorem residency_append (package : String) (history : List Change) (c : Change) :
    residency package (history ++ [c]) =
      if c = .remove package then []
      else if residency package history = [] then
        if (c.code? package).isSome then [c] else []
      else residency package history ++ [c] := by
  by_cases hremove : c = .remove package
  · simp [residency, hremove]
  · have hstays : (c != .remove package) = true := bne_iff_ne.2 hremove
    rw [residency, List.rtakeWhile_concat, if_pos hstays, List.dropWhile_append, if_neg hremove,
      ← residency]
    by_cases hresident : residency package history = []
    · rw [if_pos (List.isEmpty_iff.2 hresident), if_pos hresident]
      cases hcode : c.code? package <;> simp [hcode]
    · rw [if_neg (mt List.isEmpty_iff.1 hresident), if_neg hresident]

theorem residency_suffix (package : String) (history : List Change) :
    residency package history <:+ history :=
  (List.dropWhile_suffix _).trans (List.rtakeWhile_suffix _ _)

/-- A longer residency started earlier. -/
theorem start_lt_start {p q : String} {history : List Change}
    (h : (residency q history).length < (residency p history).length) :
    start p history < start q history := by
  have hp := (residency_suffix p history).length_le
  unfold start
  omega

/-- What is taken from the end of a list is what stands before nothing that is not. -/
theorem mem_rtakeWhile_iff {α : Type} {p : α → Bool} {l : List α} {a : α} :
    a ∈ l.rtakeWhile p ↔ ∃ before after, l = before ++ a :: after ∧ p a ∧ ∀ b ∈ after, p b := by
  constructor
  · intro ha
    obtain ⟨front, hfront⟩ := List.rtakeWhile_suffix p l
    obtain ⟨s, t, hsplit⟩ := List.append_of_mem ha
    refine ⟨front ++ s, t, ?_, List.mem_rtakeWhile_imp ha, ?_⟩
    · rw [List.append_assoc, ← hsplit, hfront]
    · intro b hb
      refine List.mem_rtakeWhile_imp (l := l) ?_
      rw [hsplit]
      exact List.mem_append_right s (List.mem_cons_of_mem a hb)
  · rintro ⟨before, after, rfl, ha, hafter⟩
    have hall : ∀ b ∈ (a :: after).reverse, p b := by
      intro b hb
      rcases List.mem_cons.1 (List.mem_reverse.1 hb) with rfl | hb
      · exact ha
      · exact hafter b hb
    rw [List.rtakeWhile, List.reverse_append, List.takeWhile_append_of_pos hall, List.mem_reverse]
    exact List.mem_append_left _ (List.mem_reverse.2 List.mem_cons_self)

/-- A package is resident exactly when a change made it known and none removed it since. -/
theorem residency_ne_nil_iff {package : String} {history : List Change} :
    residency package history ≠ [] ↔
      ∃ before c after, history = before ++ c :: after ∧ (c.code? package).isSome ∧
        Change.remove package ∉ after := by
  have hstays (after : List Change) :
      (∀ d ∈ after, (d != .remove package) = true) ↔ Change.remove package ∉ after := by
    simp only [bne_iff_ne]
    exact List.forall_mem_ne'
  simp only [residency, ne_eq, List.dropWhile_eq_nil_iff, Classical.not_forall, exists_prop,
    mem_rtakeWhile_iff, hstays, Bool.not_eq_true, Option.isNone_eq_false_iff]
  constructor
  · rintro ⟨c, ⟨before, after, hhistory, -, hafter⟩, hcode⟩
    exact ⟨before, c, after, hhistory, hcode, hafter⟩
  · rintro ⟨before, c, after, hhistory, hcode, hafter⟩
    refine ⟨c, ⟨before, after, hhistory, ?_, hafter⟩, hcode⟩
    rw [bne_iff_ne]
    rintro rfl
    cases hcode

end Registry

/-! ## One footprint -/

namespace Footprint

open Registry (Change)

/-- What a change makes of a footprint. A removal takes it away as a whole. -/
def change (f : Footprint) : Change → Footprint
  | .addPackage info user => f.take (user, info)
  | .setCode package base splits => if f.package = package then f.setCode base splits else f
  | .addDir package user dir => if f.package = package then f.addDir dir user else f
  | .removeUser package user => if f.package = package then f.removeUser user else f
  | .remove _ => f

@[simp] theorem package_change (f : Footprint) (c : Change) : (f.change c).package = f.package := by
  cases c with
  | addPackage info user => exact f.package_take (user, info)
  | setCode package base splits =>
    simp only [change]
    split <;> rfl
  | addDir package user dir =>
    simp only [change]
    split <;> rfl
  | removeUser package user =>
    simp only [change]
    split <;> rfl
  | remove package => rfl

/-- The code of a footprint is the one that was given last. -/
theorem code_change (f : Footprint) (c : Change) :
    ((f.change c).base, (f.change c).splits) = (c.code? f.package).getD (f.base, f.splits) := by
  cases c with
  | addPackage info user =>
    have hcode : (Change.addPackage info user).code? f.package =
      if info.name = f.package then some (info.base, .ofList info.splits) else none := rfl
    simp only [change, take, hcode, eq_comm (a := info.name)]
    split
    · obtain ⟨-, hbase, hsplits⟩ :=
        code_addDirs (f.setCode info.base info.splits) info.dataDirs user
      exact Prod.ext hbase hsplits
    · rfl
  | setCode package base splits =>
    have hcode : (Change.setCode package base splits).code? f.package =
      if package = f.package then some (base, .ofList splits) else none := rfl
    simp only [change, hcode, eq_comm (a := package)]
    split
    · rfl
    · rfl
  | addDir package user dir =>
    simp only [change]
    split
    · rfl
    · rfl
  | removeUser package user =>
    simp only [change]
    split
    · rfl
    · rfl
  | remove package => rfl

theorem knows_removeUser {f : Footprint} {dir : String} {user v : UserId} :
    (f.removeUser user).Knows dir v ↔ v ≠ user ∧ f.Knows dir v := by
  rw [Knows, dirsOf?_removeUser]
  by_cases hv : v = user
  · simp [hv]
  · simp [hv, Knows]

/-- A footprint knows what a change adds, and what it knew unless the user is removed. -/
theorem knows_change {f : Footprint} {c : Change} {dir : String} {user : UserId} :
    (f.change c).Knows dir user ↔
      c ≠ .removeUser f.package user ∧ (f.Knows dir user ∨ dir ∈ c.dirs f.package user) := by
  cases c with
  | addPackage info u =>
    simp only [change, knows_take, Change.dirs]
    by_cases h : info.name = f.package ∧ u = user
    · simp [h, or_comm]
    · have hne : ¬(f.package = info.name ∧ dir ∈ info.dataDirs ∧ user = u) :=
        fun h' => h ⟨h'.1.symm, h'.2.2.symm⟩
      simp [h, hne]
  | setCode package base splits =>
    simp only [change, Change.dirs]
    split <;> simp [Knows]
  | addDir package u d =>
    simp only [change, Change.dirs]
    by_cases hp : f.package = package
    · subst hp
      rw [if_pos rfl, knows_addDir]
      by_cases hu : u = user
      · simp [hu, or_comm]
      · simp [hu, Ne.symm hu]
    · simp [hp, Ne.symm hp]
  | removeUser package u =>
    simp only [change, Change.dirs]
    by_cases hp : f.package = package
    · subst hp
      rw [if_pos rfl, knows_removeUser]
      simp [eq_comm]
    · simp [hp, Ne.symm hp]
  | remove package => simp [change, Change.dirs]

/-! ### Users -/

/-- Every user of the package has a data directory. -/
def IsTrim (f : Footprint) : Prop := ∀ user, f.hasUser user → ∃ dir, f.Knows dir user

theorem hasUser_iff {f : Footprint} {user : UserId} :
    f.hasUser user ↔ ∃ dirs, f.dirsOf? user = some dirs :=
  Option.isSome_iff_exists

theorem IsTrim.addDir {f : Footprint} (h : f.IsTrim) (dir : String) (user : UserId) :
    (f.addDir dir user).IsTrim := by
  intro v hv
  by_cases hvu : v = user
  · exact ⟨dir, knows_addDir.2 (.inl ⟨rfl, hvu⟩)⟩
  · obtain ⟨dirs, hdirs⟩ := hasUser_iff.1 hv
    rw [dirsOf?_addDir, if_neg hvu] at hdirs
    obtain ⟨d, hd⟩ := h v (hasUser_iff.2 ⟨dirs, hdirs⟩)
    exact ⟨d, knows_addDir.2 (.inr hd)⟩

theorem IsTrim.addDirs {f : Footprint} (h : f.IsTrim) (dirs : List String) (user : UserId) :
    (f.addDirs dirs user).IsTrim := by
  induction dirs generalizing f with
  | nil => exact h
  | cons dir dirs ih => exact ih (h.addDir dir user)

theorem IsTrim.removeUser {f : Footprint} (h : f.IsTrim) (user : UserId) :
    (f.removeUser user).IsTrim := by
  intro v hv
  obtain ⟨dirs, hdirs⟩ := hasUser_iff.1 hv
  rw [dirsOf?_removeUser] at hdirs
  obtain ⟨hvu, hdirs⟩ := Option.ite_none_left_eq_some.1 hdirs
  obtain ⟨d, hd⟩ := h v (hasUser_iff.2 ⟨dirs, hdirs⟩)
  exact ⟨d, knows_removeUser.2 ⟨hvu, hd⟩⟩

theorem IsTrim.change {f : Footprint} (h : f.IsTrim) (c : Change) : (f.change c).IsTrim := by
  cases c with
  | addPackage info user =>
    simp only [Footprint.change, take]
    split
    · exact IsTrim.addDirs (f := f.setCode info.base info.splits) h info.dataDirs user
    · exact h
  | setCode package base splits =>
    simp only [Footprint.change]
    split
    · exact h
    · exact h
  | addDir package user dir =>
    simp only [Footprint.change]
    split
    · exact h.addDir dir user
    · exact h
  | removeUser package user =>
    simp only [Footprint.change]
    split
    · exact h.removeUser user
    · exact h
  | remove package => exact h

/-! ### Footprints of a residency -/

/-- The footprint knows the directories that the changes of a residency have added since its
user was last removed, and users for the sake of those only. -/
structure Records (f : Footprint) (stay : List Change) : Prop where
  trim : f.IsTrim
  knows : ∀ dir user, f.Knows dir user ↔
    dir ∈ (Registry.sinceUser f.package user stay).flatMap (·.dirs f.package user)

theorem records_ofCode (package base : String) (splits : List String) :
    (ofCode package base splits).Records [] where
  trim := by
    intro user huser
    cases huser
  knows := by
    intro dir user
    refine iff_of_false (not_knows_of_dirs_empty rfl dir user) ?_
    exact List.not_mem_nil

theorem Records.change {f : Footprint} {stay : List Change} (h : f.Records stay) (c : Change) :
    (f.change c).Records (stay ++ [c]) where
  trim := h.trim.change c
  knows := by
    intro dir user
    rw [package_change, knows_change, h.knows, Registry.sinceUser_append]
    split
    · next hc => simp [hc]
    · next hc => simp [hc]

end Footprint

/-! ## The registry -/

namespace Registry

/-- The footprint that a change makes, if it makes an unknown package known. -/
def newcomers (r : Registry) (c : Change) : List Footprint :=
  match c.bare? with
  | some f => if f.package ∈ r.packages then [] else [f]
  | none => []

theorem ne_of_mem_footprints {r : Registry} {package : String} (h : package ∉ r.packages)
    {f : Footprint} (hf : f ∈ r.footprints) : f.package ≠ package := by
  rintro rfl
  exact h (List.mem_map_of_mem hf)

theorem get?_eq_none_iff {r : Registry} {package : String} :
    r.get? package = none ↔ package ∉ r.packages := by
  rw [← contains_iff, contains, Bool.not_eq_true, Option.isSome_eq_false_iff,
    Option.isNone_iff_eq_none]

/-- A change of one package, where it stands, is taken up by every footprint. -/
theorem footprints_modify {r : Registry} {c : Change} {package : String}
    {u : Footprint → Footprint} (h : ∀ f, f.change c = if f.package = package then u f else f) :
    (r.modify package u).footprints = r.footprints.map (·.change c) := by
  refine List.map_congr_left fun f _ => ?_
  simp only [h, beq_iff_eq]

/-- A change of an unknown package leaves every footprint as it is. -/
theorem map_change_of_unknown {r : Registry} {c : Change} {package : String}
    {u : Footprint → Footprint} (h : ∀ f, f.change c = if f.package = package then u f else f)
    (hunknown : package ∉ r.packages) : r.footprints.map (·.change c) = r.footprints := by
  refine (List.map_congr_left fun f hf => ?_).trans (List.map_id' _)
  rw [h, if_neg (ne_of_mem_footprints hunknown hf)]

/-- A change is taken up by every footprint, after one was made for a package that becomes
known. A removal takes the footprints of its package away. -/
theorem footprints_change (r : Registry) (c : Change) :
    (r.change c).footprints =
      ((r.footprints ++ r.newcomers c).map (·.change c)).filter
        fun f => c != .remove f.package := by
  have hstay (hc : ∀ p, c ≠ .remove p) (fs : List Footprint) :
      fs.filter (fun f => c != .remove f.package) = fs :=
    List.filter_eq_self.2 fun f _ => bne_iff_ne.2 (hc f.package)
  cases c with
  | addPackage info user =>
    rw [hstay fun _ h => Change.noConfusion h]
    exact r.footprints_addPackage (user, info)
  | setCode package base splits =>
    have hchange (f : Footprint) : f.change (.setCode package base splits) =
      if f.package = package then f.setCode base splits else f := rfl
    have hnew : r.newcomers (.setCode package base splits) =
      if package ∈ r.packages then [] else [.ofCode package base splits] := rfl
    rw [hstay fun _ h => Change.noConfusion h, hnew, change, setCode]
    by_cases hp : package ∈ r.packages
    · rw [if_pos (contains_iff.2 hp), if_pos hp, List.append_nil]
      exact footprints_modify hchange
    · rw [if_neg (mt contains_iff.1 hp), if_neg hp, List.map_append,
        map_change_of_unknown hchange hp]
      simp [hchange, Footprint.ofCode, Footprint.setCode]
  | addDir package user dir =>
    have hchange (f : Footprint) : f.change (.addDir package user dir) =
      if f.package = package then f.addDir dir user else f := rfl
    have hnew : r.newcomers (.addDir package user dir) = [] := rfl
    rw [hstay fun _ h => Change.noConfusion h, hnew, List.append_nil, change, addDir]
    cases hp : r.get? package with
    | none => exact (map_change_of_unknown hchange (get?_eq_none_iff.1 hp)).symm
    | some f => exact footprints_modify hchange
  | removeUser package user =>
    have hchange (f : Footprint) : f.change (.removeUser package user) =
      if f.package = package then f.removeUser user else f := rfl
    have hnew : r.newcomers (.removeUser package user) = [] := rfl
    rw [hstay fun _ h => Change.noConfusion h, hnew, List.append_nil, change, removeUser]
    cases hp : r.get? package with
    | none => exact (map_change_of_unknown hchange (get?_eq_none_iff.1 hp)).symm
    | some f => exact footprints_modify hchange
  | remove package =>
    have hnew : r.newcomers (.remove package) = [] := rfl
    have hsame : r.footprints.map (·.change (.remove package)) = r.footprints := List.map_id' _
    rw [hnew, List.append_nil, hsame]
    refine congrArg (List.filter · r.footprints) (funext fun f => ?_)
    rw [Bool.eq_iff_iff, bne_iff_ne, bne_iff_ne, ne_eq, ne_eq, Change.remove.injEq, eq_comm]

theorem mem_newcomers_iff {r : Registry} {c : Change} {f : Footprint} :
    f ∈ r.newcomers c ↔ c.bare? = some f ∧ f.package ∉ r.packages := by
  unfold newcomers
  cases c.bare? with
  | none => simp
  | some g =>
    dsimp only
    rw [Option.some.injEq]
    split
    · next hknown =>
      refine iff_of_false List.not_mem_nil ?_
      rintro ⟨rfl, hnew⟩
      exact hnew hknown
    · next hnew =>
      rw [List.mem_singleton, eq_comm, iff_self_and]
      rintro rfl
      exact hnew

/-- The packages that become known are the unknown ones to which the change gives code. -/
theorem mem_map_newcomers_iff {r : Registry} {c : Change} {package : String} :
    package ∈ (r.newcomers c).map (·.package) ↔
      (c.code? package).isSome ∧ package ∉ r.packages := by
  simp only [List.mem_map, mem_newcomers_iff, Change.code?]
  cases c.bare? with
  | none => simp
  | some f =>
    by_cases hp : f.package = package
    · simp [hp]
    · simp [hp]

theorem records_of_bare? {c : Change} {f : Footprint} (h : c.bare? = some f) : f.Records [] := by
  cases c with
  | addPackage info user =>
    cases h
    exact Footprint.records_ofCode _ _ _
  | setCode package base splits =>
    cases h
    exact Footprint.records_ofCode _ _ _
  | addDir package user dir => cases h
  | removeUser package user => cases h
  | remove package => cases h

/-- At most one package becomes known by a change. -/
theorem pairwise_newcomers (r : Registry) (c : Change) (R : String → String → Prop) :
    ((r.newcomers c).map (·.package)).Pairwise R := by
  unfold newcomers
  cases c.bare? with
  | none => exact .nil
  | some f =>
    dsimp only
    split
    · exact .nil
    · exact List.pairwise_singleton R f.package

theorem packages_change (r : Registry) (c : Change) :
    (r.change c).packages =
      (r.packages ++ (r.newcomers c).map (·.package)).filter fun p => c != .remove p := by
  have hkeep : Footprint.package ∘ (·.change c) = Footprint.package :=
    funext fun f => f.package_change c
  simp only [packages, footprints_change, ← List.map_append, List.filter_map, List.map_map, hkeep]
  refine congrArg (List.map Footprint.package) (List.filter_congr fun f _ => ?_)
  simp

/-! ### Histories -/

/-- The registry describes the history: the packages with a residency are known, those with a
longer one come first, and every footprint has the code that was given last and the
directories of its residency. -/
structure Describes (r : Registry) (history : List Change) : Prop where
  known : ∀ package, package ∈ r.packages ↔ residency package history ≠ []
  order : r.packages.Pairwise fun p q =>
    (residency q history).length < (residency p history).length
  code : ∀ f ∈ r.footprints,
    history.reverse.findSome? (·.code? f.package) = some (f.base, f.splits)
  records : ∀ f ∈ r.footprints, f.Records (residency f.package history)

theorem describes_empty : empty.Describes [] where
  known package := by simp [packages, empty, residency]
  order := .nil
  code f hf := nomatch hf
  records f hf := nomatch hf

variable {r : Registry} {history : List Change}

/-- A residency grows with every change until the package is removed. -/
theorem residency_append_of_known {package : String} {c : Change} (h : r.Describes history)
    (hknown : package ∈ r.packages) (hstays : c ≠ .remove package) :
    residency package (history ++ [c]) = residency package history ++ [c] := by
  rw [residency_append, if_neg hstays, if_neg ((h.known package).1 hknown)]

/-- The residency of a package that becomes known starts with the change that does it. -/
theorem residency_append_of_unknown {package : String} {c : Change} (h : r.Describes history)
    (hunknown : package ∉ r.packages) (hcode : (c.code? package).isSome) :
    residency package (history ++ [c]) = [c] := by
  have hstays : c ≠ .remove package := by
    rintro rfl
    cases hcode
  have hnot := Classical.not_not.1 (mt (h.known package).2 hunknown)
  rw [residency_append, if_neg hstays, if_pos hnot, if_pos hcode]

theorem Describes.change (h : r.Describes history) (c : Change) :
    (r.change c).Describes (history ++ [c]) where
  known := by
    intro package
    rw [packages_change, List.mem_filter, List.mem_append, mem_map_newcomers_iff, bne_iff_ne]
    by_cases hstays : c = .remove package
    · simp [hstays, residency_append]
    · by_cases hknown : package ∈ r.packages
      · simp [hstays, hknown, residency_append_of_known h hknown hstays]
      · have hnot := Classical.not_not.1 (mt (h.known package).2 hknown)
        simp [residency_append, hstays, hknown, hnot, Option.isSome_iff_ne_none]
  order := by
    rw [packages_change, List.filter_append, List.pairwise_append]
    refine ⟨(h.order.filter _).imp_of_mem ?_, (pairwise_newcomers r c _).filter _, ?_⟩
    · -- both have been known
      intro p q hp hq hlt
      simp only [List.mem_filter, bne_iff_ne] at hp hq
      simp only [residency_append_of_known h hp.1 hp.2, residency_append_of_known h hq.1 hq.2,
        List.length_append]
      exact Nat.add_lt_add_right hlt _
    · -- the second becomes known
      intro p hp q hq
      simp only [List.mem_filter, bne_iff_ne, mem_map_newcomers_iff] at hp hq
      rw [residency_append_of_known h hp.1 hp.2, residency_append_of_unknown h hq.1.2 hq.1.1,
        List.length_append]
      exact Nat.lt_add_of_pos_left (List.length_pos_iff.2 ((h.known p).1 hp.1))
  code := by
    intro f hf
    rw [footprints_change] at hf
    obtain ⟨g, hg, rfl⟩ := List.mem_map.1 (List.mem_filter.1 hf).1
    rw [List.reverse_append, List.reverse_singleton, List.singleton_append, List.findSome?_cons,
      Footprint.package_change, Footprint.code_change]
    cases hcode : c.code? g.package with
    | some code => rfl
    | none =>
      -- the change gives no code, so the package has been known
      rcases List.mem_append.1 hg with hg | hg
      · exact h.code g hg
      · have hnew := (mem_map_newcomers_iff.1 (List.mem_map_of_mem hg)).1
        rw [hcode] at hnew
        cases hnew
  records := by
    intro f hf
    rw [footprints_change] at hf
    obtain ⟨hf, hstays⟩ := List.mem_filter.1 hf
    obtain ⟨g, hg, rfl⟩ := List.mem_map.1 hf
    rw [Footprint.package_change, bne_iff_ne] at hstays
    rw [Footprint.package_change]
    rcases List.mem_append.1 hg with hg | hg
    · rw [residency_append_of_known h (List.mem_map_of_mem hg) hstays]
      exact (h.records g hg).change c
    · have hnew := mem_map_newcomers_iff.1 (List.mem_map_of_mem hg)
      rw [residency_append_of_unknown h hnew.2 hnew.1]
      exact (records_of_bare? (mem_newcomers_iff.1 hg).1).change c

theorem describes_ofHistory (history : List Change) : (ofHistory history).Describes history := by
  induction history using List.reverseRecOn with
  | nil => exact describes_empty
  | append_singleton history c ih =>
    rw [ofHistory_append]
    exact ih.change c

theorem Describes.nodup_packages (h : r.Describes history) : r.packages.Nodup := by
  refine h.order.imp ?_
  rintro p q hlt rfl
  exact Nat.lt_irrefl _ hlt

/-- Every footprint is found under its name, and nothing else is. -/
theorem Describes.get?_eq_some_iff (h : r.Describes history) {package : String} {f : Footprint} :
    r.get? package = some f ↔ f ∈ r.footprints ∧ f.package = package := by
  constructor
  · intro hf
    refine ⟨List.mem_of_find?_eq_some hf, ?_⟩
    simpa using List.find?_some hf
  · rintro ⟨hf, rfl⟩
    obtain ⟨before, after, hsplit⟩ := List.append_of_mem hf
    have hnodup : (before ++ f :: after).Pairwise fun a b => a.package ≠ b.package :=
      hsplit ▸ List.pairwise_map.1 h.nodup_packages
    refine List.find?_eq_some_iff_append.2 ⟨beq_self_eq_true _, before, after, hsplit, ?_⟩
    intro a ha
    have hne := (List.pairwise_append.1 hnodup).2.2 a ha f List.mem_cons_self
    simpa using hne

/-- After any history of changes, a package is known exactly when a change made it known and
none removed it since. Each known package is listed once, and those whose residency started
earlier come first. A footprint is found under its name. It has the code that was given to
its package last; the directories of a user are those that were added in the residency since
the user was last removed, and the user is known exactly when there are any. -/
theorem ofHistory_characterised (history : List Change) :
    let r := ofHistory history
    (∀ package, package ∈ r.packages ↔
      ∃ before c after, history = before ++ c :: after ∧ (c.code? package).isSome ∧
        Change.remove package ∉ after) ∧
    r.packages.Nodup ∧
    (r.packages.Pairwise fun p q => start p history < start q history) ∧
    (∀ package f, r.get? package = some f ↔ f ∈ r.footprints ∧ f.package = package) ∧
    ∀ f ∈ r.footprints,
      history.reverse.findSome? (·.code? f.package) = some (f.base, f.splits) ∧
      ∀ user,
        (∀ dir, f.Knows dir user ↔
          dir ∈ (sinceUser f.package user (residency f.package history)).flatMap
            (·.dirs f.package user)) ∧
        (f.hasUser user ↔ ∃ dir, f.Knows dir user) := by
  have h := describes_ofHistory history
  refine ⟨?_, h.nodup_packages, h.order.imp start_lt_start, fun _ _ => h.get?_eq_some_iff, ?_⟩
  · intro package
    rw [h.known, residency_ne_nil_iff]
  · intro f hf
    refine ⟨h.code f hf, fun user => ⟨fun dir => (h.records f hf).knows dir user, ?_⟩⟩
    constructor
    · exact (h.records f hf).trim user
    · rintro ⟨dir, dirs, hdirs, -⟩
      exact Footprint.hasUser_iff.2 ⟨dirs, hdirs⟩

end Registry

end DexTrail
