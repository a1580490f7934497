import Mathlib.Data.List.Basic

/-!
# Reading a query page by page

A paged query answers with some items and a cursor for the next page. Its
answers may change, so the requests are numbered and every request meets the
answers of its own number. The reading loop goes on as long as the cursor is one
to go on with. A walk is a finite sequence of pages that the loop reads up to
the last page or up to a request that fails.
-/

namespace KnativeMesh.Library.Paging

variable {α κ ε : Type}

/-- One page of items, and the cursor of the next. -/
structure Page (α κ : Type) where
  items : List α
  nextCursor : Option κ

/-- The cursors that the loop asked for, in order, and what it ended with. -/
structure Reading (α κ ε : Type) where
  requested : List (Option κ)
  result : Except ε (List α)

/-- The reading loop, from a number and a cursor on; none is returned only
where the fuel does not suffice. -/
def readPages (query : ℕ → Option κ → Except ε (Page α κ)) (goOn : Option κ → Bool) :
    ℕ → ℕ → Option κ → List α → Option (Reading α κ ε)
  | 0,_,_,_ => none
  | fuel+1,number,cursor,read =>
    match query number cursor with
    | .error err => some ⟨[cursor],.error err⟩
    | .ok page =>
      if goOn page.nextCursor then
        (readPages query goOn fuel (number+1) page.nextCursor (read++page.items)).map
          fun reading => {reading with requested := cursor::reading.requested}
      else some ⟨[cursor],.ok (read++page.items)⟩

/-- The pages that are read from a cursor on, in order, up to the last page or
up to a request that fails. -/
inductive Walk (query : ℕ → Option κ → Except ε (Page α κ)) (goOn : Option κ → Bool) :
    ℕ → Option κ → List (Page α κ) → Option ε → Prop where
  | last {number : ℕ} {cursor : Option κ} {page : Page α κ} (hpage : query number cursor=.ok page)
      (hend : goOn page.nextCursor=false) : Walk query goOn number cursor [page] none
  | throws {number : ℕ} {cursor : Option κ} {err : ε} (herr : query number cursor=.error err) :
      Walk query goOn number cursor [] (some err)
  | more {number : ℕ} {cursor : Option κ} {page : Page α κ} {pages : List (Page α κ)}
      {thrown : Option ε} (hpage : query number cursor=.ok page) (hmore : goOn page.nextCursor=true)
      (hrest : Walk query goOn (number+1) page.nextCursor pages thrown) :
      Walk query goOn number cursor (page::pages) thrown

/-- The cursors asked for: the first one and that of every page read, except
that nothing is asked for after the last page. -/
def requestedCursors (cursor : Option κ) (pages : List (Page α κ)) : Option ε → List (Option κ)
  | some _ => cursor::pages.map (·.nextCursor)
  | none => (cursor::pages.map (·.nextCursor)).dropLast

/-- The items of all pages in page order, or the error of a failed request. -/
def outcome (pages : List (Page α κ)) : Option ε → Except ε (List α)
  | some err => .error err
  | none => .ok (pages.flatMap (·.items))

variable {query : ℕ → Option κ → Except ε (Page α κ)} {goOn : Option κ → Bool}

/-- One page more is one cursor more. -/
theorem requestedCursors_cons (cursor : Option κ) (page : Page α κ) (pages : List (Page α κ))
    (thrown : Option ε) :
    requestedCursors cursor (page::pages) thrown=
      cursor::requestedCursors page.nextCursor pages thrown := by
  cases thrown with
  | some err => rfl
  | none => rfl

/-- The first cursor asked for is the one that the walk starts from. -/
theorem Walk.requestedCursors_eq_cons {number : ℕ} {cursor : Option κ} {pages : List (Page α κ)}
    {thrown : Option ε} (h : Walk query goOn number cursor pages thrown) :
    requestedCursors cursor pages thrown=cursor::(requestedCursors cursor pages thrown).tail := by
  cases h with
  | last => rfl
  | throws => rfl
  | more => rw [requestedCursors_cons,List.tail_cons]

/-- After the first request, only cursors that keep the loop going are asked for. -/
theorem Walk.goOn_of_mem_tail {number : ℕ} {cursor : Option κ} {pages : List (Page α κ)}
    {thrown : Option ε} (h : Walk query goOn number cursor pages thrown) :
    ∀ later ∈ (requestedCursors cursor pages thrown).tail, goOn later=true := by
  induction h with
  | last => exact fun later hlater => absurd hlater List.not_mem_nil
  | throws => exact fun later hlater => absurd hlater List.not_mem_nil
  | @more number cursor page pages thrown hpage hmore hrest ih =>
    rw [requestedCursors_cons,List.tail_cons,hrest.requestedCursors_eq_cons]
    intro later hlater
    rcases List.mem_cons.mp hlater with rfl | hlater
    · exact hmore
    · exact ih later hlater

/-- The loop asks for the cursors of a walk and ends with its outcome, if it has
enough fuel: an error leaves none of the pages that were read before it. -/
theorem readPages_of_walk {number : ℕ} {cursor : Option κ} {pages : List (Page α κ)}
    {thrown : Option ε} (h : Walk query goOn number cursor pages thrown) :
    ∃ fuel, ∀ more, fuel ≤ more → ∀ read, readPages query goOn more number cursor read=
      some ⟨requestedCursors cursor pages thrown,(outcome pages thrown).map (read++·)⟩ := by
  induction h with
  | last hpage hend =>
    refine ⟨1,fun more hmore read => ?_⟩
    obtain ⟨more,rfl⟩ : ∃ n, more=n+1 := ⟨more-1,by omega⟩
    rw [readPages,hpage]
    dsimp only
    rw [hend,if_neg Bool.false_ne_true]
    simp [requestedCursors,outcome,Except.map]
  | throws herr =>
    refine ⟨1,fun more hmore read => ?_⟩
    obtain ⟨more,rfl⟩ : ∃ n, more=n+1 := ⟨more-1,by omega⟩
    rw [readPages,herr]
    rfl
  | @more _ _ _ _ thrown hpage hgoOn _ ih =>
    obtain ⟨fuel,hfuel⟩ := ih
    refine ⟨fuel+1,fun more hmore read => ?_⟩
    obtain ⟨more,rfl⟩ : ∃ n, more=n+1 := ⟨more-1,by omega⟩
    have hle : fuel ≤ more := by omega
    rw [readPages,hpage]
    dsimp only
    rw [if_pos hgoOn,hfuel more hle,Option.map_some,requestedCursors_cons]
    cases thrown with
    | some err => rfl
    | none => simp [outcome,Except.map]

end KnativeMesh.Library.Paging
