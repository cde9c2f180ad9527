import OpenScale.Library.Fated
import OpenScale.Library.Scan
import OpenScale.Worker.JobModules

/-! The loop of `delete_online_features`, over any Redis that keeps the promises of SCAN and DEL: no
key that matches the pattern is left, although keys are deleted while they are listed. -/

namespace OpenScale.Worker

open OpenScale.Library OpenScale.Library.Python

variable {Stores : Type}

/-- A key that SCAN lists for the reset job. -/
def isOnlineFeature (key : String) : Bool := globMatches onlineFeaturePattern.toList key.toList

/-- What the calls to Redis do, when they return, to the keys and to everything else that
`holds`. -/
structure ListsAndDeletes (services : Services (Fated Stores)) (scanner : Scanner String)
    (keysOf : Stores → List String) (holds : Stores → Prop) : Prop where
  connect : ∀ keys, Does (fun stores => holds stores ∧ keysOf stores = keys) services.connectRedis
    fun _ stores => holds stores ∧ keysOf stores = keys
  scan : ∀ cursor keys, Does (fun stores => holds stores ∧ keysOf stores = keys)
    (services.scan cursor onlineFeaturePattern) fun found stores =>
      found = ((scanner.page cursor keys).2, (scanner.page cursor keys).1.filter isOnlineFeature) ∧
        holds stores ∧ keysOf stores = keys
  delete : ∀ batch keys, Does (fun stores => holds stores ∧ keysOf stores = keys)
    (services.deleteKeys batch) fun _ stores => holds stores ∧
      ∀ key, key ∈ keysOf stores ↔ key ∈ keys ∧ key ∉ batch

section Complete

variable {services : Services (Fated Stores)} {scanner : Scanner String}
  {keysOf : Stores → List String}
variable {holds : Stores → Prop} (redis : ListsAndDeletes services scanner keysOf holds)
include redis

theorem delete_does {pends : List String → List String → Prop} (shrinks : Scanner.Shrinks pends)
    (batch rest : List String) :
    Does (fun stores => holds stores ∧ pends (batch ++ rest) (keysOf stores))
      (services.deleteKeys batch) fun _ stores => holds stores ∧ pends rest (keysOf stores) := by
  intro world deleted final start run
  obtain ⟨kept, left⟩ :=
    redis.delete batch (keysOf world.stores) world deleted final ⟨start.1, rfl⟩ run
  refine ⟨kept, shrinks start.2 (fun key member => ((left key).mp member).1) fun key member => ?_⟩
  rcases List.mem_append.mp member with gone | still
  · exact .inr fun member => ((left key).mp member).2 gone
  · exact .inl still

theorem deletePage_does {pends : List String → List String → Prop} (shrinks : Scanner.Shrinks pends)
    (page batch : List String) (deleted : Nat) :
    Does (fun stores => holds stores ∧ pends (batch ++ page) (keysOf stores))
      (deletePage services page batch deleted) fun found stores =>
        holds stores ∧ pends found.1 (keysOf stores) := by
  induction page generalizing batch deleted with
  | nil => exact .pure fun _ start => by simpa using start
  | cons key page ih =>
    have shifted : batch ++ key :: page = (batch ++ [key]) ++ page := by simp
    rw [shifted]
    unfold deletePage
    dsimp only
    split
    · exact .bind (delete_does redis shrinks (batch ++ [key]) page) fun more =>
        ih [] (deleted + more)
    · exact ih (batch ++ [key]) deleted

theorem deleteScanned_does (batch : List String) (deleted cursor patience : Nat) :
    Does (fun stores => holds stores ∧ scanner.Chasing isOnlineFeature cursor batch (keysOf stores))
      (deleteScanned services batch deleted cursor patience) fun found stores =>
        holds stores ∧ Scanner.Cornered isOnlineFeature found.1 (keysOf stores) := by
  induction patience generalizing batch deleted cursor with
  | zero =>
    intro world found final start run
    cases run
  | succ patience ih =>
    refine .seen keysOf fun keys => .weaken (show Does (fun stores =>
      scanner.Chasing isOnlineFeature cursor batch keys ∧ holds stores ∧
        keysOf stores = keys) _ _ from
      .given fun chasing => ?_) ?_ fun _ _ last => last
    · refine .bind (redis.scan cursor keys) fun found => .given fun same => ?_
      rw [same]
      dsimp only
      by_cases ends : (scanner.page cursor keys).2 = 0
      · have cornered := scanner.chasing_ends isOnlineFeature chasing ends
        have page := deletePage_does redis (Scanner.cornered_shrinks isOnlineFeature)
        refine .bind (.weaken (page _ batch deleted) ?_ fun _ _ last => last) fun found => ?_
        · rintro stores ⟨kept, rfl⟩
          exact ⟨kept, cornered⟩
        · rw [if_pos ends]
          exact .pure fun _ last => last
      · have further := scanner.chasing_more isOnlineFeature chasing ends
        have shrinks :
            Scanner.Shrinks (scanner.Chasing isOnlineFeature (scanner.page cursor keys).2) :=
          scanner.chasing_shrinks isOnlineFeature
        refine .bind (.weaken (deletePage_does redis shrinks _ batch deleted) ?_ fun _ _ last =>
          last) fun found => ?_
        · rintro stores ⟨kept, rfl⟩
          exact ⟨kept, further⟩
        · rw [if_neg ends]
          exact ih found.1 found.2 _
    · rintro stores ⟨⟨kept, chasing⟩, rfl⟩
      exact ⟨chasing, kept, rfl⟩

theorem deleteRest_does (batch : List String) (deleted : Nat) :
    Does (fun stores => holds stores ∧ Scanner.Cornered isOnlineFeature batch (keysOf stores))
      (deleteRest services batch deleted) fun _ stores =>
        holds stores ∧ Scanner.Cornered isOnlineFeature [] (keysOf stores) := by
  unfold deleteRest
  split
  next empty =>
    rw [List.isEmpty_iff.mp empty]
    exact .pure fun _ last => last
  next filled =>
    refine .bind (.weaken (delete_does redis (Scanner.cornered_shrinks isOnlineFeature) batch []) ?_
      fun _ _ last => last)
      fun more => .pure fun _ last => last
    intro stores start
    rwa [List.append_nil]

theorem deleteOnlineFeatures_does : Does holds (deleteOnlineFeatures services) fun _ stores =>
    holds stores ∧ ∀ key ∈ keysOf stores, ¬ isOnlineFeature key := by
  refine .seen keysOf fun keys => .bind (redis.connect keys) fun _ => ?_
  refine .bind (.weaken (deleteScanned_does redis [] 0 0 services.patience) ?_ fun _ _ last => last)
    fun found => ?_
  · exact fun stores start => ⟨start.1, scanner.chasing_start isOnlineFeature⟩
  · refine .bind (deleteRest_does redis found.1 found.2) fun deleted => .pure fun stores last =>
      ⟨last.1, ?_⟩
    exact fun key member wanted => absurd (last.2 key member wanted) List.not_mem_nil

end Complete

section Frame

variable {Outside : Type} {services : Services Outside} {holds : Outside → Prop}

/-- What deleting feature keys keeps. -/
structure DeletesFeatures (services : Services Outside) (holds : Outside → Prop) : Prop where
  connect : services.connectRedis.Maintains holds
  scan : ∀ cursor, (services.scan cursor onlineFeaturePattern).Maintains holds
  lists : ∀ cursor, (services.scan cursor onlineFeaturePattern).Yields fun found =>
    ∀ key ∈ found.2, isOnlineFeature key
  delete : ∀ batch, (∀ key ∈ batch, isOnlineFeature key) →
    (services.deleteKeys batch).Maintains holds

variable (redis : DeletesFeatures services holds)
include redis

theorem deletePage_maintains {page batch : List String} (listed : ∀ key ∈ page, isOnlineFeature key)
    (collected : ∀ key ∈ batch, isOnlineFeature key) (deleted : Nat) :
    (deletePage services page batch deleted).Maintains holds ∧
      (deletePage services page batch deleted).Yields fun found =>
        ∀ key ∈ found.1, isOnlineFeature key := by
  induction page generalizing batch deleted with
  | nil => exact ⟨.pure, .pure collected⟩
  | cons key page ih =>
    obtain ⟨first, rest⟩ := List.forall_mem_cons.mp listed
    have more : ∀ other ∈ batch ++ [key], isOnlineFeature other := by
      intro other member
      rcases List.mem_append.mp member with before | last
      · exact collected other before
      · exact List.mem_singleton.mp last ▸ first
    have emptied : ∀ other ∈ ([] : List String), isOnlineFeature other :=
      fun _ none_ => absurd none_ List.not_mem_nil
    unfold deletePage
    dsimp only
    split
    · exact ⟨.bind (redis.delete _ more) fun count => (ih rest emptied _).1, .last fun count =>
        (ih rest emptied _).2⟩
    · exact ih rest more deleted

theorem deleteScanned_maintains {batch : List String}
    (collected : ∀ key ∈ batch, isOnlineFeature key)
    (deleted cursor patience : Nat) :
    (deleteScanned services batch deleted cursor patience).Maintains holds ∧
      (deleteScanned services batch deleted cursor patience).Yields fun found =>
        ∀ key ∈ found.1, isOnlineFeature key := by
  induction patience generalizing batch deleted cursor with
  | zero =>
    refine ⟨fun _ start => start, fun _ _ _ run => ?_⟩
    cases run
  | succ patience ih =>
    have page (found : Nat × List String) (listed : ∀ key ∈ found.2, isOnlineFeature key) :=
      deletePage_maintains redis listed collected deleted
    constructor
    · refine .bind_yields (redis.scan cursor) (redis.lists cursor) fun found listed =>
        .bind_yields (page found listed).1 (page found listed).2 fun found kept => ?_
      obtain ⟨batch, deleted⟩ := found
      dsimp only
      split
      · exact .pure
      · exact (ih kept _ _).1
    · refine .bind (redis.lists cursor) fun found listed =>
        .bind (page found listed).2 fun found kept => ?_
      obtain ⟨batch, deleted⟩ := found
      dsimp only
      split
      · exact .pure kept
      · exact (ih kept _ _).2

theorem deleteOnlineFeatures_maintains : (deleteOnlineFeatures services).Maintains holds := by
  have none_ : ∀ key ∈ ([] : List String), isOnlineFeature key :=
    fun _ member => absurd member List.not_mem_nil
  have scanned := deleteScanned_maintains redis none_ 0 0 services.patience
  refine .bind redis.connect fun _ => .bind_yields scanned.1 scanned.2 fun found kept => ?_
  refine .bind ?_ fun _ => .pure
  unfold deleteRest
  split
  · exact .pure
  · exact .bind (redis.delete found.1 kept) fun _ => .pure

end Frame

end OpenScale.Worker
