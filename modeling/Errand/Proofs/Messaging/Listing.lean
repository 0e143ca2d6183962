import Errand.Messaging.Store
import Mathlib.Data.List.Basic

/-!
# Listing messages, page by page

A listing puts the newest message first, and of messages of one time the one that was sent last. So
it is ordered by two keys, the time and the place in the order of sending (`ListedBefore`). The
listing is made in another way: the messages are reversed and then sorted by time alone, by a sort
that leaves what is level as it stands (`pairwise_mergeSort_of_pairwise`).

`listMessages_pages` says that a page is the stretch of this one list that its offset and its limit
name, and that pages which follow each other make up the list.
-/

set_option autoImplicit false

namespace Errand

/-! ### The order of instants -/

namespace Time.Instant

theorem le_iff {a b : Instant} :
    a.le b ↔ a.seconds < b.seconds ∨ a.seconds = b.seconds ∧ a.nanos ≤ b.nanos := by
  simp [le]

theorem le_trans {a b c : Instant} (hab : a.le b) (hbc : b.le c) : a.le c := by
  rw [le_iff] at *
  omega

theorem le_total (a b : Instant) : a.le b ∨ b.le a := by
  rw [le_iff, le_iff]
  omega

theorem le_antisymm {a b : Instant} (hab : a.le b) (hba : b.le a) : a = b := by
  rw [le_iff] at hab hba
  have hseconds : a.seconds = b.seconds := by omega
  have hnanos : a.nanos = b.nanos := by omega
  cases a
  cases b
  simp_all

end Time.Instant

namespace Messaging

/-! ### Sorting -/

/-- Items that are level are left by a sort in the order in which they stood. -/
theorem pairwise_mergeSort_of_pairwise {α : Type} (le : α → α → Bool) {before : α → α → Prop}
    (htrans : ∀ a b c, le a b → le b c → le a c) (htotal : ∀ a b, le a b || le b a)
    {items : List α} (h : items.Pairwise before) :
    (items.mergeSort le).Pairwise fun a b ↦ le a b ∧ (le b a → before a b) := by
  have hsorted := List.pairwise_mergeSort (List.zipIdxLE_trans htrans)
    (List.zipIdxLE_total htotal) items.zipIdx
  have hplaces : (items.zipIdx.map Prod.snd).Nodup := by
    rw [List.zipIdx_map_snd]
    exact List.nodup_range'
  have hdistinct : (items.zipIdx.mergeSort (List.zipIdxLE le)).Pairwise fun a b ↦ a.2 ≠ b.2 :=
    List.pairwise_map.mp (((List.mergeSort_perm _ _).map Prod.snd).nodup_iff.mpr hplaces)
  rw [← List.mergeSort_zipIdx, List.pairwise_map]
  refine (hsorted.and hdistinct).imp_of_mem fun {a b} ha hb hab ↦ ?_
  obtain ⟨hle, hne⟩ := hab
  rw [List.mem_mergeSort] at ha hb
  unfold List.zipIdxLE at hle
  split at hle
  · next hle' =>
    refine ⟨hle', fun hlevel ↦ ?_⟩
    rw [if_pos hlevel, decide_eq_true_eq] at hle
    obtain ⟨hltA, hA⟩ := List.getElem?_eq_some_iff.mp (List.mem_zipIdx_iff_getElem?.mp ha)
    obtain ⟨hltB, hB⟩ := List.getElem?_eq_some_iff.mp (List.mem_zipIdx_iff_getElem?.mp hb)
    rw [← hA, ← hB]
    exact List.pairwise_iff_getElem.mp h _ _ hltA hltB (by omega)
  · cases hle

/-! ### Pages -/

/-- What stands in a page. -/
theorem Page.getElem?_of {α : Type} (page : Page) (items : List α) (index : Nat) :
    (page.of items)[index]? =
      if page.limit.all (index < ·) then items[page.offset + index]? else none := by
  unfold Page.of
  cases page.limit with
  | none => simp
  | some limit => simp [List.getElem?_take]

/-- The page with a number, if all pages have the same size. -/
def Page.numbered (size number : Nat) : Page :=
  { offset := number * size, limit := some size }

/-- Pages that follow each other make up a list as far as they go. -/
theorem Page.flatMap_numbered {α : Type} (items : List α) (size count : Nat) :
    (List.range count).flatMap (fun number ↦ (Page.numbered size number).of items) =
      items.take (count * size) := by
  induction count with
  | zero => simp
  | succ count ih =>
    rw [List.range_succ, List.flatMap_append, ih, List.flatMap_singleton, Nat.succ_mul,
      List.take_add]
    rfl

/-! ### Listings -/

/-- The messages that a filter lets pass, each with its place in the order of sending. -/
def Store.matching (store : Store) (filter : Filter) : List (Message × Nat) :=
  store.messages.zipIdx.filter fun entry ↦ filter.accepts entry.1

/-- Whether a message, with its place in the order of sending, is listed before another: it is
newer, or of the same time and was sent later. -/
def ListedBefore (a b : Message × Nat) : Prop :=
  b.1.createdAt.le a.1.createdAt ∧ (a.1.createdAt = b.1.createdAt → b.2 < a.2)

theorem Store.map_matching (store : Store) (filter : Filter) :
    (store.matching filter).map Prod.fst = store.messages.filter filter.accepts := by
  have h := List.filter_map (p := filter.accepts) (f := Prod.fst) (l := store.messages.zipIdx)
  rw [List.zipIdx_map_fst] at h
  exact h.symm

theorem Store.pairwise_matching (store : Store) (filter : Filter) :
    (store.matching filter).Pairwise fun a b ↦ a.2 < b.2 := by
  refine List.Pairwise.filter _ (List.pairwise_map.mp (?_ : (_ : List Nat).Pairwise (· < ·)))
  rw [List.zipIdx_map_snd]
  exact List.pairwise_lt_range'

/-- Of two messages at different places one is listed before the other, and not the other way round.
-/
theorem ListedBefore.asymm {a b : Message × Nat} (hab : ListedBefore a b)
    (hba : ListedBefore b a) : False := by
  have hsame := Time.Instant.le_antisymm hba.1 hab.1
  have hlt := hab.2 hsame
  have hgt := hba.2 hsame.symm
  omega

/-- The messages that a filter lets pass, in the order in which they are listed. -/
theorem Store.exists_ranked (store : Store) (filter : Filter) :
    ∃ ranked : List (Message × Nat), ranked.Perm (store.matching filter) ∧
      ranked.Pairwise ListedBefore ∧
      newestFirst (store.messages.filter filter.accepts) = ranked.map Prod.fst := by
  let newer (a b : Message × Nat) : Bool := b.1.createdAt.le a.1.createdAt
  have hlater : (store.matching filter).reverse.Pairwise fun a b ↦ b.2 < a.2 :=
    List.pairwise_reverse.mpr (store.pairwise_matching filter)
  have hsorted := pairwise_mergeSort_of_pairwise newer
    (fun _ _ _ hab hbc ↦ Time.Instant.le_trans hbc hab)
    (fun a b ↦ by simpa [newer, or_comm] using Time.Instant.le_total a.1.createdAt b.1.createdAt)
    hlater
  refine ⟨(store.matching filter).reverse.mergeSort newer,
    (List.mergeSort_perm _ _).trans (List.reverse_perm _), hsorted.imp fun {a b} hab ↦ ?_, ?_⟩
  · refine ⟨hab.1, fun hsame ↦ hab.2 ?_⟩
    simpa [newer, hsame] using hab.1
  · rw [List.map_mergeSort (s := fun a b : Message ↦ b.createdAt.le a.createdAt)
      (fun _ _ _ _ ↦ rfl), List.map_reverse, store.map_matching]
    rfl

/-- There is one way to put the messages that a filter lets pass in order, newest first and of one
time the one sent last first, and every one of them stands in it once. A page is the stretch of this
list that begins at its offset and is as long as its limit allows. Pages of one size that are read
one after another make up the list from its start, and all of it once they reach its end, as they do
if they hold anything. As many messages are counted as a listing without limits holds. -/
theorem listMessages_pages (store : Store) (filter : Filter) :
    ∃ ranked : List (Message × Nat),
      (∀ other, other.Perm (store.matching filter) ∧ other.Pairwise ListedBefore ↔
        other = ranked) ∧
      (∀ page index, (store.listMessages filter page)[index]? =
        if page.limit.all (index < ·) then (ranked.map Prod.fst)[page.offset + index]? else none) ∧
      (∀ size count, (List.range count).flatMap
          (fun number ↦ store.listMessages filter (.numbered size number)) =
        (ranked.map Prod.fst).take (count * size)) ∧
      (∀ size, 0 < size → ∃ enough, ∀ count, enough ≤ count → (List.range count).flatMap
          (fun number ↦ store.listMessages filter (.numbered size number)) =
        ranked.map Prod.fst) ∧
      store.countMessages filter = (store.listMessages filter {}).length := by
  obtain ⟨ranked, hperm, hranked, hlisted⟩ := store.exists_ranked filter
  have hpages (page : Page) : store.listMessages filter page = page.of (ranked.map Prod.fst) := by
    rw [Store.listMessages, hlisted]
  have htake (size count : Nat) : (List.range count).flatMap
      (fun number ↦ store.listMessages filter (.numbered size number)) =
        (ranked.map Prod.fst).take (count * size) := by
    simp only [hpages, Page.flatMap_numbered]
  refine ⟨ranked, fun other ↦ ⟨fun hother ↦ ?_, ?_⟩, fun page index ↦ ?_, htake,
    fun size hsize ↦ ⟨ranked.length, fun count hcount ↦ ?_⟩, ?_⟩
  · exact List.Perm.eq_of_pairwise (fun a b _ _ hab hba ↦ (hab.asymm hba).elim) hother.2 hranked
      (hother.1.trans hperm.symm)
  · rintro rfl
    exact ⟨hperm, hranked⟩
  · rw [hpages, Page.getElem?_of]
  · rw [htake, List.take_of_length_le]
    rw [List.length_map]
    exact Nat.le_trans hcount (Nat.le_mul_of_pos_right count hsize)
  · have hlength := (hperm.map Prod.fst).length_eq
    rw [store.map_matching] at hlength
    rw [Store.countMessages, List.countP_eq_length_filter, ← hlength, hpages]
    rfl

/-- Three messages of which the last two were sent at one time, in pages of two. -/
theorem listMessages_pages_level :
    let message (id : String) (seconds : Int) : Message :=
      ⟨id, "c-1", "u-1", "u-2", "hello", ⟨seconds, 0⟩⟩
    let store : Store := { messages := [message "m-1" 5, message "m-2" 7, message "m-3" 7] }
    0 < 2 ∧ ∃ enough, ∀ count, enough ≤ count → (List.range count).flatMap
      (fun number ↦ store.listMessages {} (.numbered 2 number)) =
        [message "m-3" 7, message "m-2" 7, message "m-1" 5] := by
  intro message store
  obtain ⟨ranked, honly, -, -, hpages, -⟩ := listMessages_pages store {}
  have hranked : [(message "m-3" 7, 2), (message "m-2" 7, 1), (message "m-1" 5, 0)] = ranked := by
    refine (honly _).mp ⟨?_, ?_⟩
    · decide
    · simp [ListedBefore, message, Time.Instant.le]
  refine ⟨by decide, ?_⟩
  rw [← hranked] at hpages
  exact hpages 2 (by decide)

end Messaging

end Errand
