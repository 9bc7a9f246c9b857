import Mathlib.Data.List.Nodup
import Mathlib.Data.List.TakeDrop
import MlflowOidcAuth.Library.Loop

/-! A list read page by page through a server that picks some of its items. A page covers
the items between two offsets; a walk over the pages collects all that is picked. -/
namespace Paging
open Loop

variable {A B Token Error : Type*}

/-- The items that a backing search returns at an offset. -/
def slice (items : List A) (offset count : Nat) : List A := (items.drop offset).take count

/-- What is picked of the items from one offset up to another. -/
def Covers (pick : A → Option B) (items : List A) (start stop : Nat) (picked : List B) : Prop :=
  start ≤ stop ∧
    (items.take stop).filterMap pick = (items.take start).filterMap pick ++ picked

section
variable {pick : A → Option B} {items : List A} {start middle stop : Nat}

theorem covers_nil (start : Nat) : Covers pick items start start [] :=
  ⟨le_refl _,(List.append_nil _).symm⟩

theorem Covers.append {first second : List B} (covers : Covers pick items start middle first)
    (later : Covers pick items middle stop second) :
    Covers pick items start stop (first ++ second) := by
  refine ⟨le_trans covers.1 later.1,?_⟩
  rw [later.2,covers.2,List.append_assoc]

theorem covers_slice (pick : A → Option B) (items : List A) (start count : Nat) :
    Covers pick items start (start + count) ((slice items start count).filterMap pick) := by
  refine ⟨Nat.le_add_right _ _,?_⟩
  rw [List.take_add,List.filterMap_append]
  rfl

theorem Covers.mem {picked : List B} (covers : Covers pick items start stop picked) {item : B}
    (member : item ∈ picked) : ∃ source ∈ items, pick source = some item := by
  have listed : item ∈ (items.take stop).filterMap pick := by
    rw [covers.2]
    exact List.mem_append_right _ member
  obtain ⟨source,taken,picks⟩ := List.mem_filterMap.mp listed
  exact ⟨source,List.mem_of_mem_take taken,picks⟩

/-- A page that reaches the end has all that is left. -/
theorem Covers.rest {picked : List B} (covers : Covers pick items start stop picked)
    (reached : items.length ≤ stop) : picked = (items.drop start).filterMap pick := by
  have whole := covers.2
  rw [List.take_of_length_le reached] at whole
  have split : items.filterMap pick =
      (items.take start).filterMap pick ++ (items.drop start).filterMap pick := by
    rw [← List.filterMap_append,List.take_append_drop]
  rw [split] at whole
  exact (List.append_cancel_left whole).symm

theorem Covers.all {picked : List B} (covers : Covers pick items 0 stop picked)
    (reached : items.length ≤ stop) : picked = items.filterMap pick := by
  have whole := covers.rest reached
  rwa [List.drop_zero] at whole

theorem slice_length (items : List A) (offset count : Nat) :
    (slice items offset count).length = min count (items.length - offset) := by
  simp [slice]

theorem slice_of_length (items : List A) (offset count : Nat) :
    slice items offset (slice items offset count).length = slice items offset count := by
  rw [slice_length,← List.length_drop]
  simp [slice,List.take_eq_take_iff]

theorem covers_fetched (pick : A → Option B) (items : List A) (offset count : Nat) :
    Covers pick items offset (offset + (slice items offset count).length)
      ((slice items offset count).filterMap pick) := by
  have covers := covers_slice pick items offset
    (slice items offset count).length
  rw [slice_of_length] at covers
  exact covers

theorem take_slice (items : List A) (offset count limit : Nat) :
    (slice items offset count).take limit = slice items offset (min limit count) := by
  simp [slice,List.take_take]

/-- A page that covers the items from its offset up to the next one, or up to the end. -/
structure Served (pick : A → Option B) (items : List A) (limit start : Nat) (picked : List B)
    (next : Option Nat) : Prop where
  bounded : picked.length ≤ limit
  more : ∀ stop, next = some stop →
    start < stop ∧ stop ≤ items.length ∧ Covers pick items start stop picked
  done : next = none → ∃ stop, items.length ≤ stop ∧ Covers pick items start stop picked

end

/-- A first page that has every key is the whole list. -/
theorem first_page_iff {key : A → B} {items : List A} (distinct : (items.map key).Nodup)
    (count : Nat) :
    (∀ item ∈ items, key item ∈ (items.take count).map key) ↔ items.length ≤ count := by
  constructor
  · intro paged
    by_contra short
    have later : count < items.length := not_le.mp short
    have dropped : key items[count] ∈ (items.map key).drop count := by
      rw [← List.map_drop]
      exact List.mem_map_of_mem (List.mem_drop_iff_getElem.mpr ⟨0,by simpa using later,rfl⟩)
    have taken := paged items[count] (List.getElem_mem later)
    rw [List.map_take] at taken
    exact List.disjoint_take_drop distinct le_rfl taken dropped
  · intro whole item member
    rw [List.take_of_length_le whole]
    exact List.mem_map_of_mem member

/-- One request of a client that follows the tokens, after the pages it already has. -/
def walkStep (serve : Token → Except Error (List B × Option Token))
    (state : List (List B) × Token) :
    Except Error (Next (List (List B) × Token) (List (List B))) :=
  match serve state.2 with
  | .error error => .error error
  | .ok (page,none) => .ok (.leave (state.1 ++ [page]))
  | .ok (page,some token) => .ok (.goOn (state.1 ++ [page],token))

def walk (exhausted : Error) (serve : Token → Except Error (List B × Option Token)) (fuel : Nat)
    (token : Token) : Except Error (List (List B)) :=
  iterate exhausted (walkStep serve) fuel ([],token)

/-- A walk over pages that each cover their items ends, and has picked every item once and in
order, on pages within the limit. -/
theorem walk_complete {pick : A → Option B} {items : List A} {limit : Nat} {exhausted : Error}
    {serve : Token → Except Error (List B × Option Token)} {position : Token → Nat}
    {Issued : Token → Prop}
    (served : ∀ token, Issued token → position token ≤ items.length →
      ∃ page next, serve token = .ok (page,next) ∧
        Served pick items limit (position token) page (next.map position) ∧
        ∀ later, next = some later → Issued later)
    {token : Token} (issued : Issued token) (first : position token = 0) {fuel : Nat}
    (enough : items.length < fuel) :
    ∃ pages, walk exhausted serve fuel token = .ok pages ∧
      pages.flatten = items.filterMap pick ∧ ∀ page ∈ pages, page.length ≤ limit := by
  let Inv : List (List B) × Token → Prop := fun state =>
    Issued state.2 ∧ position state.2 ≤ items.length ∧
      Covers pick items 0 (position state.2) state.1.flatten ∧
      ∀ page ∈ state.1, page.length ≤ limit
  have inside : position token ≤ items.length := by omega
  have start : Inv ([],token) := by
    refine ⟨issued,inside,?_,by simp⟩
    rw [first]
    exact covers_nil 0
  have measured : items.length - position token < fuel := by omega
  refine iterate_ends Inv (fun state => items.length - position state.2) ?_ start measured
  intro state held
  obtain ⟨known,inside,covers,bounded⟩ := held
  obtain ⟨page,next,answered,page_served,followed⟩ := served state.2 known inside
  have within : ∀ other ∈ state.1 ++ [page], other.length ≤ limit := by
    intro other member
    rcases List.mem_append.mp member with earlier | last
    · exact bounded other earlier
    · rw [List.mem_singleton.mp last]
      exact page_served.bounded
  have joined : (state.1 ++ [page]).flatten = state.1.flatten ++ page := by simp
  cases next with
  | none =>
    obtain ⟨stop,reached,last⟩ := page_served.done rfl
    refine ⟨.leave (state.1 ++ [page]),by simp only [walkStep,answered],?_,within⟩
    rw [joined]
    exact (covers.append last).all reached
  | some later =>
    obtain ⟨ahead,still,onward⟩ := page_served.more _ rfl
    refine ⟨.goOn (state.1 ++ [page],later),by simp only [walkStep,answered],?_,?_⟩
    · refine ⟨followed later rfl,still,?_,within⟩
      rw [joined]
      exact covers.append onward
    · change items.length - position later < items.length - position state.2
      omega

/-- From a token on, the server hands out these items, in order, over so many pages. -/
inductive Chain (serve : Token → Except Error (List A × Option Token)) :
    Token → Nat → List A → Prop
  | last {token : Token} {page : List A} (served : serve token = .ok (page,none)) :
      Chain serve token 1 page
  | more {token next : Token} {count : Nat} {page rest : List A}
      (served : serve token = .ok (page,some next)) (later : Chain serve next count rest) :
      Chain serve token (count + 1) (page ++ rest)

/-- One request of a client that keeps what it wants of every page. -/
def gatherStep (serve : Token → Except Error (List A × Option Token)) (keep : A → Bool)
    (state : List A × Token) : Except Error (Next (List A × Token) (List A)) :=
  match serve state.2 with
  | .error error => .error error
  | .ok (page,none) => .ok (.leave (state.1 ++ page.filter keep))
  | .ok (page,some token) => .ok (.goOn (state.1 ++ page.filter keep,token))

/-- The client ends with the wanted items of the whole chain, once and in order. -/
theorem gather_chain {serve : Token → Except Error (List A × Option Token)} (keep : A → Bool)
    {exhausted : Error} {token : Token} {count : Nat} {items : List A}
    (chain : Chain serve token count items) {fuel : Nat} (enough : count ≤ fuel) (kept : List A) :
    iterate exhausted (gatherStep serve keep) fuel (kept,token) =
      .ok (kept ++ items.filter keep) := by
  induction chain generalizing fuel kept with
  | last served =>
    obtain ⟨fuel,rfl⟩ := Nat.exists_eq_add_of_le' enough
    simp only [iterate,gatherStep,served]
  | @more token next count page rest served later ih =>
    obtain ⟨fuel,rfl⟩ := Nat.exists_eq_add_of_le' (Nat.le_trans (Nat.le_add_left 1 count) enough)
    have left : count ≤ fuel := by omega
    simp only [iterate,gatherStep,served]
    rw [ih left (kept ++ page.filter keep),List.filter_append,List.append_assoc]

end Paging
