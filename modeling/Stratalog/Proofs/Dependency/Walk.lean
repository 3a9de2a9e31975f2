import Stratalog.Proofs.Dependency.Reach

/-!
# Depth-first walks

Along a depth-first walk some nodes are open: they were entered and are not finished. A node stays on
the stack as long as it leads to an open one. Each node on the stack leads to those above it, so all
nodes from an open one upwards are a class as soon as they lead to nothing below it on the stack.

The lowlink tells when that is: it is the number of a node on the stack that is led to, and no
number that the nodes above have an edge to is less.
-/

namespace Stratalog.Digraph

/-- Two nodes lead to each other. -/
def Mutual (next : Nat → List Nat) (u v : Nat) : Prop :=
  Leads next u v ∧ Leads next v u

theorem Mutual.refl (next : Nat → List Nat) (v : Nat) : Mutual next v v :=
  ⟨.refl, .refl⟩

theorem Mutual.symm {next : Nat → List Nat} {u v : Nat} (h : Mutual next u v) : Mutual next v u :=
  ⟨h.2, h.1⟩

theorem Mutual.trans {next : Nat → List Nat} {u v w : Nat} (h : Mutual next u v)
    (h' : Mutual next v w) : Mutual next u w :=
  ⟨h.1.trans h'.1, h'.2.trans h.2⟩

namespace Walk

variable {next : Nat → List Nat} {n number : Nat} {walk walk' : Walk} {path above rest : List Nat}
  {u v w : Nat}

/-- Nothing is entered at first. -/
theorem index?_start : (start n).index? v = none := by
  rw [index?, start, Array.getElem?_replicate]
  split <;> rfl

/-- Nothing is on the stack at first. -/
theorem isOpen_start : (start n).isOpen v = false := by
  rw [isOpen, start, Array.getElem?_replicate]
  split <;> rfl

/-- Entering a node numbers it. -/
theorem index?_enter (hv : v < walk.index.size) :
    (walk.enter v).index? w = if v = w then some walk.counter else walk.index? w := by
  rw [index?, enter, Array.getElem?_setIfInBounds, if_pos hv]
  split <;> rfl

/-- The lowlink of a node that was entered just now is its number. -/
theorem low_enter (hv : v < walk.lowlink.size) :
    (walk.enter v).low w = if v = w then walk.counter else walk.low w := by
  rw [low, enter, Array.getElem?_setIfInBounds, if_pos hv]
  split <;> rfl

/-- Entering a node puts it on the stack. -/
theorem isOpen_enter (hv : v < walk.onStack.size) :
    (walk.enter v).isOpen w = true ↔ v = w ∨ walk.isOpen w = true := by
  rw [isOpen, enter, Array.getElem?_setIfInBounds, if_pos hv]
  split
  next heq => exact iff_of_true rfl (.inl heq)
  next hne => exact (or_iff_right hne).symm

/-- Lowering the lowlink of a node leaves those of the others. -/
theorem low_lower (hv : v < walk.lowlink.size) :
    (walk.lower v number).low w = if v = w then min (walk.low v) number else walk.low w := by
  rw [low, lower, Array.getElem?_setIfInBounds, if_pos hv]
  split <;> rfl

/-- Popping takes all above a node and the node itself. -/
theorem popTo_eq (hv : v ∉ above) : popTo v (above ++ v :: rest) = (above ++ [v], rest) := by
  induction above with
  | nil => simp [popTo]
  | cons u above ih =>
    obtain ⟨hne, hv⟩ := not_or.1 (mt List.mem_cons.2 hv)
    rw [List.cons_append, popTo, if_neg (Ne.symm hne), ih hv]
    rfl

/-- Closing a node completes the component of all nodes above it. -/
theorem close_eq (hstack : walk.stack = above ++ v :: rest) (hv : v ∉ above) :
    (walk.close v).stack = rest ∧
      (walk.close v).out = walk.out ++ [(Std.TreeSet.ofList (above ++ [v])).toList] ∧
      (walk.close v).onStack = (above ++ [v]).foldl
        (fun onStack member => onStack.setIfInBounds member false) walk.onStack := by
  rw [close, hstack, popTo_eq hv]
  exact ⟨rfl, rfl, rfl⟩

/-- What was popped is not on the stack. -/
theorem getD_foldl_setIfInBounds (members : List Nat) (onStack : Array Bool) :
    (members.foldl (fun onStack member => onStack.setIfInBounds member false) onStack)[w]?.getD false =
      true ↔ w ∉ members ∧ onStack[w]?.getD false = true := by
  induction members generalizing onStack with
  | nil => simp
  | cons member members ih =>
    rw [List.foldl_cons, ih, List.mem_cons, not_or, Array.getElem?_setIfInBounds]
    by_cases hmember : member = w
    · rw [if_pos hmember]
      split <;> simp [hmember]
    · rw [if_neg hmember, and_iff_right (Ne.symm hmember)]

/-- Popping drops no flag. -/
theorem size_foldl_setIfInBounds (members : List Nat) (onStack : Array Bool) : (members.foldl
    (fun onStack member => onStack.setIfInBounds member false) onStack).size = onStack.size := by
  induction members generalizing onStack with
  | nil => rfl
  | cons member members ih => rw [List.foldl_cons, ih, Array.size_setIfInBounds]

/-- Components in the order in which they were completed: classes in increasing order, which lead to
themselves and to classes before them only. -/
def ListsClasses (next : Nat → List Nat) (out : List (List Nat)) : Prop :=
  ∀ before members after, out = before ++ members :: after → members.Pairwise (· < ·) ∧
    ∃ r ∈ members, (∀ v, v ∈ members ↔ Mutual next r v) ∧
      ∀ v, Leads next r v → v ∈ before.flatten ∨ v ∈ members

/-- A walk whose records agree: the nodes that were entered have numbers below the next one, and are on
the stack or in a complete component. -/
structure Tidy (n : Nat) (walk : Walk) : Prop where
  index_size : walk.index.size = n
  lowlink_size : walk.lowlink.size = n
  onStack_size : walk.onStack.size = n
  nodup : (walk.stack ++ walk.out.flatten).Nodup
  entered : ∀ v, (walk.index? v).isSome = true ↔ v ∈ walk.stack ++ walk.out.flatten
  lt_counter : ∀ v number, walk.index? v = some number → number < walk.counter
  isOpen : ∀ v, walk.isOpen v = true ↔ v ∈ walk.stack

/-- A walk with the nodes of `path` open: entered and not finished, the latest first. -/
structure Along (next : Nat → List Nat) (n : Nat) (path : List Nat) (walk : Walk) : Prop
    extends Tidy n walk where
  sublist : path.Sublist walk.stack
  leads : walk.stack.Pairwise fun later earlier => Leads next earlier later
  back : ∀ v ∈ walk.stack, ∃ r ∈ path, Leads next v r
  done : ∀ v ∈ walk.stack, v ∉ path → ∀ w ∈ next v, (walk.index? w).isSome = true
  classes : ListsClasses next walk.out

/-- What a walk keeps as it goes on: the numbers and lowlinks of the nodes entered before, and the stack
below what was put on it. -/
structure Grows (walk walk' : Walk) : Prop where
  counter : walk.counter ≤ walk'.counter
  kept : ∀ v number, walk.index? v = some number → walk'.index? v = some number
  fresh : ∀ v number, walk'.index? v = some number →
    walk.index? v = some number ∨ walk.counter ≤ number
  low : ∀ v, (walk.index? v).isSome = true → walk'.low v = walk.low v
  stack : walk.stack <:+ walk'.stack
  out : walk.out <+: walk'.out

/-- A walk that looks at the successors of a node it entered, after it has looked at some. The lowlink of
the node is the number of a node on the stack, and no number below is less that an edge leads to: from
above the node, or from the node itself to a successor seen. -/
structure Scans (next : Nat → List Nat) (n : Nat) (path : List Nat) (walk : Walk) (v : Nat)
    (seen : List Nat) (walk' : Walk) : Prop where
  along : walk'.Along next n (v :: path)
  grows : walk.Grows walk'
  new : walk.index? v = none
  index : walk'.index? v = some walk.counter
  stack : ∃ above, walk'.stack = above ++ v :: walk.stack
  met : ∀ w ∈ seen, (walk'.index? w).isSome = true
  low_le : walk'.low v ≤ walk.counter
  low : ∃ x ∈ walk'.stack, walk'.index? x = some (walk'.low v) ∧ Leads next v x
  covers : ∀ u ∈ walk'.stack, u ∉ walk.stack → ∀ w ∈ next u, (u = v → w ∈ seen) → w ∈ walk.stack →
    ∀ number, walk.index? w = some number → walk'.low v ≤ number

/-- A walk that entered and finished a node. Unless all above the stack was completed, the lowlink of the
node is the number of a node on the stack, and no number is less that an edge leads to from above. -/
structure Visits (next : Nat → List Nat) (n : Nat) (path : List Nat) (walk : Walk) (v : Nat)
    (walk' : Walk) : Prop where
  along : walk'.Along next n path
  grows : walk.Grows walk'
  entered : (walk'.index? v).isSome = true
  low : (∃ x ∈ walk'.stack, walk'.index? x = some (walk'.low v) ∧ Leads next v x) ∨
    walk.counter ≤ walk'.low v
  covers : ∀ u ∈ walk'.stack, u ∉ walk.stack → ∀ w ∈ next u, w ∈ walk.stack →
    ∀ number, walk.index? w = some number → walk'.low v ≤ number

theorem Grows.refl (walk : Walk) : walk.Grows walk :=
  ⟨le_rfl, fun _ _ => id, fun _ _ => .inl, fun _ _ => rfl, List.suffix_refl _, List.prefix_refl _⟩

theorem Grows.trans {walk'' : Walk} (h : walk.Grows walk') (h' : walk'.Grows walk'') :
    walk.Grows walk'' where
  counter := h.counter.trans h'.counter
  kept v number hindex := h'.kept v number (h.kept v number hindex)
  fresh v number hindex := (h'.fresh v number hindex).elim (h.fresh v number) fun hle =>
    .inr (h.counter.trans hle)
  low v hentered := by
    obtain ⟨number, hindex⟩ := Option.isSome_iff_exists.1 hentered
    rw [h'.low v (Option.isSome_iff_exists.2 ⟨number, h.kept v number hindex⟩), h.low v hentered]
  stack := h.stack.trans h'.stack
  out := h.out.trans h'.out

/-- What was entered stays entered. -/
theorem Grows.entered (h : walk.Grows walk') (hv : (walk.index? v).isSome = true) :
    (walk'.index? v).isSome = true := by
  obtain ⟨number, hindex⟩ := Option.isSome_iff_exists.1 hv
  exact Option.isSome_iff_exists.2 ⟨number, h.kept v number hindex⟩

/-- What is in a complete component stays in one. -/
theorem Grows.mem_out (h : walk.Grows walk') (hv : v ∈ walk.out.flatten) : v ∈ walk'.out.flatten := by
  obtain ⟨more, hmore⟩ := h.out
  rw [← hmore, List.flatten_append]
  exact List.mem_append_left _ hv

/-- Lowering the lowlink of a node that is new keeps what was before. -/
theorem Grows.lower (h : walk.Grows walk') (hv : v < walk'.lowlink.size) (hnew : walk.index? v = none) :
    walk.Grows (walk'.lower v number) where
  counter := h.counter
  kept := h.kept
  fresh := h.fresh
  low w hentered := by
    rw [low_lower hv, if_neg (fun heq => by simp [← heq, hnew] at hentered), h.low w hentered]
  stack := h.stack
  out := h.out

namespace ListsClasses

variable {out : List (List Nat)}

/-- No component is complete at first. -/
theorem nil (next : Nat → List Nat) : ListsClasses next [] := by
  intro before members after hsplit
  simp at hsplit

/-- Another class is completed after those it leads to. -/
theorem concat (h : ListsClasses next out) {members : List Nat} (hsorted : members.Pairwise (· < ·))
    (hv : v ∈ members) (hclass : ∀ w, w ∈ members ↔ Mutual next v w)
    (hleads : ∀ w, Leads next v w → w ∈ out.flatten ∨ w ∈ members) :
    ListsClasses next (out ++ [members]) := by
  intro before members' after hsplit
  rcases List.eq_nil_or_concat after with rfl | ⟨others, last, rfl⟩
  · obtain ⟨rfl, heq⟩ := List.append_inj' hsplit rfl
    obtain rfl : members = members' := by simpa using heq
    exact ⟨hsorted, v, hv, hclass, hleads⟩
  · refine h before members' others ?_
    have hassoc : before ++ members' :: (others ++ [last]) = (before ++ members' :: others) ++ [last] := by
      simp
    rw [List.concat_eq_append, hassoc] at hsplit
    exact (List.append_inj' hsplit rfl).1

/-- What a node of a complete component leads to is in that component or one before. -/
theorem mem_of_leads (h : ListsClasses next out) {before after : List (List Nat)} {members : List Nat}
    (hsplit : out = before ++ members :: after) (hu : u ∈ members) (hlead : Leads next u v) :
    v ∈ before.flatten ∨ v ∈ members := by
  obtain ⟨-, r, -, hclass, hleads⟩ := h before members after hsplit
  exact hleads v (((hclass u).1 hu).1.trans hlead)

/-- What a node of a complete component leads to is in a complete component. -/
theorem closed (h : ListsClasses next out) (hu : u ∈ out.flatten) (hlead : Leads next u v) :
    v ∈ out.flatten := by
  obtain ⟨members, hmembers, hu⟩ := List.mem_flatten.1 hu
  obtain ⟨before, after, hsplit⟩ := List.append_of_mem hmembers
  rw [hsplit, List.flatten_append, List.flatten_cons, List.mem_append, List.mem_append]
  exact (h.mem_of_leads hsplit hu hlead).imp_right .inl

end ListsClasses

namespace Tidy

/-- At first nothing is entered. -/
theorem start (n : Nat) : (start n).Tidy n where
  index_size := Array.size_replicate
  lowlink_size := Array.size_replicate
  onStack_size := Array.size_replicate
  nodup := List.nodup_nil
  entered v := by
    rw [index?_start]
    exact iff_of_false (by simp) List.not_mem_nil
  lt_counter v number hindex := by
    rw [index?_start] at hindex
    cases hindex
  isOpen v := by
    rw [isOpen_start]
    exact iff_of_false (by simp) List.not_mem_nil

/-- What is entered is a node. -/
theorem lt (h : walk.Tidy n) (hv : (walk.index? v).isSome = true) : v < n := by
  by_contra hge
  rw [index?, Array.getElem?_eq_none (by rw [h.index_size]; omega)] at hv
  cases hv

/-- What is on the stack was entered. -/
theorem isSome_of_mem (h : walk.Tidy n) (hv : v ∈ walk.stack) : (walk.index? v).isSome = true :=
  (h.entered v).2 (List.mem_append_left _ hv)

/-- What is new is neither on the stack nor in a complete component. -/
theorem not_mem (h : walk.Tidy n) (hnew : walk.index? v = none) : v ∉ walk.stack ++ walk.out.flatten := by
  rw [← h.entered, hnew]
  exact Bool.false_ne_true

/-- What is entered anew has the next number; the others keep theirs. -/
theorem index?_enter (h : walk.Tidy n) (hv : v < n) :
    (walk.enter v).index? w = if v = w then some walk.counter else walk.index? w :=
  Walk.index?_enter (h.index_size.symm ▸ hv)

/-- Entering a new node keeps the records in agreement. -/
theorem enter (h : walk.Tidy n) (hv : v < n) (hnew : walk.index? v = none) : (walk.enter v).Tidy n where
  index_size := by rw [Walk.enter, Array.size_setIfInBounds, h.index_size]
  lowlink_size := by rw [Walk.enter, Array.size_setIfInBounds, h.lowlink_size]
  onStack_size := by rw [Walk.enter, Array.size_setIfInBounds, h.onStack_size]
  nodup := List.nodup_cons.2 ⟨h.not_mem hnew, h.nodup⟩
  entered w := by
    rw [h.index?_enter hv]
    split
    next heq => exact iff_of_true rfl (heq ▸ List.mem_cons_self)
    next hne => exact (h.entered w).trans (List.mem_cons.trans (or_iff_right (Ne.symm hne))).symm
  lt_counter w number hindex := by
    rw [h.index?_enter hv] at hindex
    split at hindex
    next =>
      cases hindex
      exact Nat.lt_succ_self _
    next => exact Nat.lt_succ_of_lt (h.lt_counter w number hindex)
  isOpen w := by
    rw [isOpen_enter (h.onStack_size.symm ▸ hv), h.isOpen, eq_comm]
    exact List.mem_cons.symm

/-- Lowering a lowlink keeps the records in agreement. -/
theorem lower (h : walk.Tidy n) (v number : Nat) : (walk.lower v number).Tidy n :=
  { h with lowlink_size := by rw [Walk.lower, Array.size_setIfInBounds, h.lowlink_size] }

/-- No node stands on the stack twice. -/
theorem nodup_stack (h : walk.Tidy n) : walk.stack.Nodup :=
  (List.nodup_append.1 h.nodup).1

/-- What is popped when a node is closed stands on the stack once. -/
theorem nodup_above (h : walk.Tidy n) (hstack : walk.stack = above ++ v :: rest) :
    v ∉ above ∧ (above ++ [v]).Nodup ∧ ∀ u ∈ above ++ [v], u ∉ rest := by
  have hnodup := h.nodup_stack
  rw [hstack, List.append_cons] at hnodup
  obtain ⟨habove, -, hdisjoint⟩ := List.nodup_append.1 hnodup
  refine ⟨fun hv => ?_, habove, fun u hu hmem => hdisjoint u hu u hmem rfl⟩
  exact (List.nodup_append.1 habove).2.2 v hv v List.mem_cons_self rfl

/-- Completing a component keeps the records in agreement. -/
theorem close (h : walk.Tidy n) (hstack : walk.stack = above ++ v :: rest) : (walk.close v).Tidy n := by
  obtain ⟨hv, hnodup, habove⟩ := h.nodup_above hstack
  obtain ⟨hstack', hout', honStack'⟩ := close_eq hstack hv
  rw [List.append_cons] at hstack
  have hperm : ((walk.close v).stack ++ (walk.close v).out.flatten).Perm
      (walk.stack ++ walk.out.flatten) := by
    rw [hstack', hout', hstack, List.flatten_append, List.flatten_singleton]
    refine List.perm_append_comm.trans ?_
    rw [List.append_assoc]
    exact (((toList_ofList_perm hnodup).append_right rest).append_left _).trans List.perm_append_comm
  refine ⟨h.index_size, h.lowlink_size, ?_, hperm.nodup_iff.2 h.nodup, fun w => ?_, h.lt_counter,
    fun w => ?_⟩
  · rw [honStack', size_foldl_setIfInBounds, h.onStack_size]
  · exact (h.entered w).trans hperm.mem_iff.symm
  · rw [Walk.isOpen, honStack', getD_foldl_setIfInBounds, ← Walk.isOpen, h.isOpen, hstack', hstack]
    constructor
    · intro ⟨hpopped, hmem⟩
      exact (List.mem_append.1 hmem).resolve_left hpopped
    · intro hmem
      exact ⟨fun hpopped => habove w hpopped hmem, List.mem_append_right _ hmem⟩

end Tidy

namespace Along

/-- At first no node is open. -/
theorem start (next : Nat → List Nat) (n : Nat) : (start n).Along next n [] where
  toTidy := .start n
  sublist := List.nil_sublist _
  leads := List.Pairwise.nil
  back _ hv := absurd hv List.not_mem_nil
  done _ hv := absurd hv List.not_mem_nil
  classes := .nil next

/-- Lowering a lowlink changes nothing about what is open. -/
theorem lower (h : walk.Along next n path) (v number : Nat) : (walk.lower v number).Along next n path :=
  { h with toTidy := h.toTidy.lower v number }

/-- As long as a node is new, fewer are open than there are. -/
theorem length_lt (h : walk.Along next n path) (hv : v < n) (hnew : walk.index? v = none) :
    path.length < n := by
  have hmem : v ∉ path := fun hv => h.not_mem hnew (List.mem_append_left _ (h.sublist.subset hv))
  have hnodup : (v :: path).Nodup := List.nodup_cons.2 ⟨hmem, h.nodup_stack.sublist h.sublist⟩
  exact length_le_of_nodup hnodup (List.forall_mem_cons.2 ⟨hv, fun r hr =>
    h.lt (h.isSome_of_mem (h.sublist.subset hr))⟩)

/-- Entering a new node that all open nodes lead to opens it. -/
theorem enter (h : walk.Along next n path) (hv : v < n) (hnew : walk.index? v = none)
    (hpath : ∀ r ∈ path, Leads next r v) : walk.Scans next n path v [] (walk.enter v) := by
  have hmem := h.not_mem hnew
  have hindex (w : Nat) := h.index?_enter (w := w) hv
  have hself : (walk.enter v).index? v = some walk.counter := by rw [hindex, if_pos rfl]
  have hlow (w : Nat) : (walk.enter v).low w = if v = w then walk.counter else walk.low w :=
    low_enter (h.lowlink_size.symm ▸ hv)
  have hne {w : Nat} (hw : (walk.index? w).isSome = true) : v ≠ w := by
    rintro rfl
    rw [hnew] at hw
    cases hw
  have hgrows : walk.Grows (walk.enter v) :=
    { counter := Nat.le_succ _
      kept := fun w number hw => by
        rw [hindex, if_neg (hne (Option.isSome_iff_exists.2 ⟨number, hw⟩)), hw]
      fresh := fun w number hw => by
        rw [hindex] at hw
        split at hw
        · exact .inr (Option.some.inj hw).le
        · exact .inl hw
      low := fun w hw => by rw [hlow, if_neg (hne hw)]
      stack := List.suffix_cons _ _
      out := List.prefix_refl _ }
  constructor
  case along =>
    refine ⟨h.toTidy.enter hv hnew, h.sublist.cons_cons v, List.pairwise_cons.2 ⟨fun u hu => ?_, h.leads⟩,
      fun u hu => ?_, fun u hu hnot w hw => ?_, h.classes⟩
    · obtain ⟨r, hr, hlead⟩ := h.back u hu
      exact hlead.trans (hpath r hr)
    · rcases List.mem_cons.1 hu with rfl | hu
      · exact ⟨u, List.mem_cons_self, .refl⟩
      · obtain ⟨r, hr, hlead⟩ := h.back u hu
        exact ⟨r, List.mem_cons_of_mem _ hr, hlead⟩
    · obtain ⟨hother, hpath⟩ := not_or.1 (mt List.mem_cons.2 hnot)
      exact hgrows.entered (h.done u ((List.mem_cons.1 hu).resolve_left hother) hpath w hw)
  case grows => exact hgrows
  case new => exact hnew
  case index => exact hself
  case stack => exact ⟨[], rfl⟩
  case met => simp
  case low_le => rw [hlow, if_pos rfl]
  case low => exact ⟨v, List.mem_cons_self, by rw [hself, hlow, if_pos rfl], .refl⟩
  case covers =>
    intro u hu hnot w hw hseen hw'
    rcases List.mem_cons.1 hu with rfl | hu
    · exact absurd (hseen rfl) List.not_mem_nil
    · exact absurd hu hnot

end Along

namespace Scans

variable {seen : List Nat} {walk'' : Walk}

/-- A node that is looked at from is a node. -/
theorem lt (h : walk.Scans next n path v seen walk') : v < n :=
  h.along.lt (Option.isSome_iff_exists.2 ⟨_, h.index⟩)

/-- A successor with a number that is not on the stack is in a complete component, and needs no more. -/
theorem skip (h : walk.Scans next n path v seen walk') (hmet : (walk'.index? w).isSome = true)
    (hclosed : w ∉ walk'.stack) : walk.Scans next n path v (seen ++ [w]) walk' :=
  { h with
    met := fun u hu => by
      rcases List.mem_append.1 hu with hu | hu
      · exact h.met u hu
      · exact List.mem_singleton.1 hu ▸ hmet
    covers := fun u hu hnot x hx hseen hx' => by
      refine h.covers u hu hnot x hx (fun huv => ?_) hx'
      refine (List.mem_append.1 (hseen huv)).resolve_right fun hxw => hclosed ?_
      exact h.grows.stack.subset (List.mem_singleton.1 hxw ▸ hx') }

/-- The lowlink of the node is lowered by the number of a successor on the stack. -/
theorem note {number : Nat} (h : walk.Scans next n path v seen walk') (hw : w ∈ next v)
    (hnumber : walk'.index? w = some number) (hopen : w ∈ walk'.stack) :
    walk.Scans next n path v (seen ++ [w]) (walk'.lower v number) := by
  have hlow : (walk'.lower v number).low v = min (walk'.low v) number := by
    rw [low_lower (h.along.lowlink_size.symm ▸ h.lt), if_pos rfl]
  refine { along := h.along.lower v number, grows := h.grows.lower (h.along.lowlink_size.symm ▸ h.lt) h.new,
           new := h.new, index := h.index, stack := h.stack, met := fun u hu => ?_, low_le := ?_,
           low := ?_, covers := fun u hu hnot x hx hseen hx' found hfound => ?_ }
  · rcases List.mem_append.1 hu with hu | hu
    · exact h.met u hu
    · exact Option.isSome_iff_exists.2 ⟨number, List.mem_singleton.1 hu ▸ hnumber⟩
  · rw [hlow]
    exact (min_le_left _ _).trans h.low_le
  · rw [hlow]
    rcases min_choice (walk'.low v) number with hmin | hmin
    · rw [hmin]
      exact h.low
    · rw [hmin]
      exact ⟨w, hopen, hnumber, .single hw⟩
  · rw [hlow]
    by_cases hlast : u = v ∧ x = w
    · obtain ⟨rfl, rfl⟩ := hlast
      have hsame := h.grows.kept x found hfound
      rw [hnumber] at hsame
      exact (min_le_right _ _).trans (Option.some.inj hsame).le
    · refine (min_le_left _ _).trans (h.covers u hu hnot x hx (fun huv => ?_) hx' found hfound)
      refine (List.mem_append.1 (hseen huv)).resolve_right fun hxw => hlast ⟨huv, ?_⟩
      exact List.mem_singleton.1 hxw

/-- The lowlink of the node is lowered by that of a new successor, once the successor is finished. -/
theorem descend (h : walk.Scans next n path v seen walk') (hw : w ∈ next v)
    (hnew : walk'.index? w = none) (hvisit : walk'.Visits next n (v :: path) w walk'') :
    walk.Scans next n path v (seen ++ [w]) (walk''.lower v (walk''.low w)) := by
  have hentered : (walk'.index? v).isSome = true := Option.isSome_iff_exists.2 ⟨_, h.index⟩
  have hgrows := h.grows.trans hvisit.grows
  have hsize : v < walk''.lowlink.size := hvisit.along.lowlink_size.symm ▸ h.lt
  have hlow : (walk''.lower v (walk''.low w)).low v = min (walk'.low v) (walk''.low w) := by
    rw [low_lower hsize, if_pos rfl, hvisit.grows.low v hentered]
  refine { along := hvisit.along.lower v _, grows := hgrows.lower hsize h.new, new := h.new,
           index := hvisit.grows.kept v _ h.index, stack := ?_, met := fun u hu => ?_, low_le := ?_,
           low := ?_, covers := fun u hu hnot x hx hseen hx' found hfound => ?_ }
  · obtain ⟨above, habove⟩ := h.stack
    obtain ⟨more, hmore⟩ := hvisit.grows.stack
    exact ⟨more ++ above, by rw [List.append_assoc, ← habove, hmore]; rfl⟩
  · rcases List.mem_append.1 hu with hu | hu
    · exact hvisit.grows.entered (h.met u hu)
    · exact List.mem_singleton.1 hu ▸ hvisit.entered
  · rw [hlow]
    exact (min_le_left _ _).trans h.low_le
  · have hold : ∃ x ∈ walk''.stack, walk''.index? x = some (walk'.low v) ∧ Leads next v x := by
      obtain ⟨x, hx, hindex, hlead⟩ := h.low
      exact ⟨x, hvisit.grows.stack.subset hx, hvisit.grows.kept x _ hindex, hlead⟩
    rw [hlow]
    rcases min_choice (walk'.low v) (walk''.low w) with hmin | hmin
    · rw [hmin]
      exact hold
    · rcases hvisit.low with ⟨x, hx, hindex, hlead⟩ | hhigh
      · rw [hmin]
        exact ⟨x, hx, hindex, .head hw hlead⟩
      · -- A successor whose component is complete has a number above that of the node.
        have hlt := h.along.lt_counter v _ h.index
        have hle := h.low_le
        rw [min_eq_left (by omega)]
        exact hold
  · rw [hlow]
    by_cases hbefore : u ∈ walk'.stack
    · refine (min_le_left _ _).trans (h.covers u hbefore hnot x hx (fun huv => ?_) hx' found hfound)
      refine (List.mem_append.1 (hseen huv)).resolve_right fun hxw => ?_
      have hknown := h.grows.kept x found hfound
      rw [List.mem_singleton.1 hxw, hnew] at hknown
      cases hknown
    · exact (min_le_right _ _).trans (hvisit.covers u hu hbefore x hx (h.grows.stack.subset hx') found
        (h.grows.kept x found hfound))

/-- Looking at a successor sees it. -/
theorem look (descend : Walk → Nat → Walk) (h : walk.Scans next n path v seen walk') (hw : w ∈ next v)
    (hdescend : walk'.index? w = none → walk'.Visits next n (v :: path) w (descend walk' w)) :
    walk.Scans next n path v (seen ++ [w]) (walk'.look descend v w) := by
  unfold Walk.look
  split
  next hnew => exact h.descend hw hnew (hdescend hnew)
  next number hnumber =>
    have hmet : (walk'.index? w).isSome = true := Option.isSome_iff_exists.2 ⟨number, hnumber⟩
    split
    next hopen => exact h.note hw hnumber ((h.along.isOpen w).1 hopen)
    next hclosed => exact h.skip hmet (mt (h.along.isOpen w).2 hclosed)

/-- Looking at successors one after another sees them all. -/
theorem foldl_look (descend : Walk → Nat → Walk)
    (hdescend : ∀ walk' : Walk, ∀ w ∈ next v, walk'.Along next n (v :: path) → walk'.index? w = none →
      walk'.Visits next n (v :: path) w (descend walk' w))
    {later : List Nat} (hlater : ∀ w ∈ later, w ∈ next v) (h : walk.Scans next n path v seen walk') :
    walk.Scans next n path v (seen ++ later) (later.foldl (Walk.look descend v) walk') := by
  induction later generalizing seen walk' with
  | nil => rwa [List.append_nil]
  | cons w later ih =>
    obtain ⟨hw, hlater⟩ := List.forall_mem_cons.1 hlater
    have hrest := ih hlater (h.look descend hw (hdescend walk' w hw h.along))
    rwa [List.append_assoc, List.singleton_append] at hrest

/-- A node whose lowlink is not its number is finished when its successors are seen. It leads to an open
node, and stays on the stack. -/
theorem leave (hwalk : walk.Along next n path) (h : walk.Scans next n path v (next v) walk')
    (hlow : walk'.low v ≠ walk.counter) : walk.Visits next n path v walk' := by
  obtain ⟨x, hx, hindex, hlead⟩ := h.low
  have hbefore : walk.index? x = some (walk'.low v) :=
    (h.grows.fresh x _ hindex).resolve_right fun hle => hlow (le_antisymm h.low_le hle)
  -- The node with that number was on the stack before, where all nodes lead to open ones.
  have hbelow : x ∈ walk.stack := by
    have hmem := (hwalk.entered x).1 (Option.isSome_iff_exists.2 ⟨_, hbefore⟩)
    refine (List.mem_append.1 hmem).resolve_right fun hout => ?_
    exact (List.nodup_append.1 h.along.nodup).2.2 x hx x (h.grows.mem_out hout) rfl
  obtain ⟨r, hr, hto⟩ := hwalk.back x hbelow
  refine { along := ⟨h.along.toTidy, (List.sublist_cons_self v path).trans h.along.sublist, h.along.leads,
             fun u hu => ?_, fun u hu hnot w hw => ?_, h.along.classes⟩,
           grows := h.grows, entered := Option.isSome_iff_exists.2 ⟨_, h.index⟩, low := .inl h.low,
           covers := fun u hu hnot w hw => h.covers u hu hnot w hw fun huv => huv ▸ hw }
  · obtain ⟨s, hs, hback⟩ := h.along.back u hu
    rcases List.mem_cons.1 hs with rfl | hs
    · exact ⟨r, hr, hback.trans (hlead.trans hto)⟩
    · exact ⟨s, hs, hback⟩
  · by_cases hself : u = v
    · exact h.met w (hself ▸ hw)
    · exact h.along.done u hu (fun hmem => hnot ((List.mem_cons.1 hmem).resolve_left hself)) w hw

/-- When the lowlink of a node is its number, and its successors are seen, no edge leads from the node
or from above it to below. -/
theorem edge_above (hwalk : walk.Along next n path) (h : walk.Scans next n path v (next v) walk')
    (hstack : walk'.stack = above ++ v :: walk.stack) (hlow : walk'.low v = walk.counter)
    (hu : u ∈ above ++ [v]) (hw : w ∈ next u) : w ∈ walk'.out.flatten ∨ w ∈ above ++ [v] := by
  obtain ⟨-, -, habove⟩ := h.along.nodup_above hstack
  rw [List.append_cons] at hstack
  have hin : u ∈ walk'.stack := hstack ▸ List.mem_append_left _ hu
  have hentered : (walk'.index? w).isSome = true := by
    by_cases hself : u = v
    · exact h.met w (hself ▸ hw)
    · refine h.along.done u hin (fun hopen => ?_) w hw
      exact habove u hu (hwalk.sublist.subset ((List.mem_cons.1 hopen).resolve_left hself))
  have hplace := (h.along.entered w).1 hentered
  rw [hstack, List.mem_append, List.mem_append] at hplace
  rcases hplace with (hw' | hbelow) | hw'
  · exact .inr hw'
  · -- An edge to a node below would have lowered the lowlink.
    obtain ⟨number, hnumber⟩ := Option.isSome_iff_exists.1 (hwalk.isSome_of_mem hbelow)
    have hle := h.covers u hin (habove u hu) w hw (fun huv => huv ▸ hw) hbelow number hnumber
    have hlt := hwalk.lt_counter w number hnumber
    omega
  · exact .inl hw'

/-- Then the node leads to complete components and to the nodes from it upwards only. -/
theorem leads_above (hwalk : walk.Along next n path) (h : walk.Scans next n path v (next v) walk')
    (hstack : walk'.stack = above ++ v :: walk.stack) (hlow : walk'.low v = walk.counter)
    (hlead : Leads next v w) : w ∈ walk'.out.flatten ∨ w ∈ above ++ [v] := by
  induction hlead with
  | refl => exact .inr (List.mem_append_right _ List.mem_cons_self)
  | tail _ hlast ih =>
    rcases ih with hout | hin
    · exact .inl (h.along.classes.closed hout (.single hlast))
    · exact h.edge_above hwalk hstack hlow hin hlast

/-- The nodes from a node upwards lead to it and back. -/
theorem mutual_above (hwalk : walk.Along next n path) (h : walk.Scans next n path v seen walk')
    (hstack : walk'.stack = above ++ v :: walk.stack) (hw : w ∈ above ++ [v]) : Mutual next v w := by
  have hpairs := h.along.leads
  rw [hstack] at hpairs
  obtain ⟨-, hbelow, habove⟩ := List.pairwise_append.1 hpairs
  have hfrom : Leads next v w := by
    rcases List.mem_append.1 hw with hw | hw
    · exact habove w hw v List.mem_cons_self
    · exact List.mem_singleton.1 hw ▸ .refl
  -- Back there is a way through an open node, which stands below.
  obtain ⟨r, hr, hto⟩ := h.along.back w (by rw [hstack, List.append_cons]; exact List.mem_append_left _ hw)
  rcases List.mem_cons.1 hr with rfl | hr
  · exact ⟨hfrom, hto⟩
  · exact ⟨hfrom, hto.trans ((List.pairwise_cons.1 hbelow).1 r (hwalk.sublist.subset hr))⟩

/-- When the lowlink of a node is its number, the nodes from it upwards are its class. -/
theorem class_above (hwalk : walk.Along next n path) (h : walk.Scans next n path v (next v) walk')
    (hstack : walk'.stack = above ++ v :: walk.stack) (hlow : walk'.low v = walk.counter) :
    w ∈ above ++ [v] ↔ Mutual next v w := by
  refine ⟨h.mutual_above hwalk hstack, fun ⟨hto, hback⟩ => ?_⟩
  refine (h.leads_above hwalk hstack hlow hto).resolve_left fun hout => ?_
  have hv : v ∈ walk'.stack := hstack ▸ List.mem_append_right _ List.mem_cons_self
  exact (List.nodup_append.1 h.along.nodup).2.2 v hv v (h.along.classes.closed hout hback) rfl

/-- A node whose lowlink is its number is finished when its successors are seen. The nodes from it upwards
are a class, which is completed. -/
theorem close (hwalk : walk.Along next n path) (h : walk.Scans next n path v (next v) walk')
    (hlow : walk'.low v = walk.counter) : walk.Visits next n path v (walk'.close v) := by
  obtain ⟨above, hstack⟩ := h.stack
  obtain ⟨hv, -, -⟩ := h.along.nodup_above hstack
  obtain ⟨hstack', hout', -⟩ := close_eq hstack hv
  have hsame (w : Nat) : w ∈ (Std.TreeSet.ofList (above ++ [v])).toList ↔ w ∈ above ++ [v] := by
    rw [Std.TreeSet.mem_toList, Std.TreeSet.mem_ofList, List.contains_iff_mem]
  have hclasses : ListsClasses next (walk'.close v).out := by
    rw [hout']
    refine h.along.classes.concat pairwise_lt_toList ((hsame v).2 (List.mem_append_right _ List.mem_cons_self))
      (fun w => (hsame w).trans (h.class_above hwalk hstack hlow)) fun w hlead => ?_
    exact (h.leads_above hwalk hstack hlow hlead).imp_right (hsame w).2
  refine { along := ⟨h.along.toTidy.close hstack, hstack' ▸ hwalk.sublist, hstack' ▸ hwalk.leads,
             hstack' ▸ hwalk.back, fun u hu hnot w hw => ?_, hclasses⟩,
           grows := ⟨h.grows.counter, h.grows.kept, h.grows.fresh, h.grows.low, ?_, ?_⟩,
           entered := Option.isSome_iff_exists.2 ⟨_, h.index⟩, low := .inr hlow.ge,
           covers := fun u hu hnot => absurd (hstack' ▸ hu) hnot }
  · exact h.grows.entered (hwalk.done u (hstack' ▸ hu) hnot w hw)
  · rw [hstack']
  · rw [hout']
    exact h.grows.out.trans (List.prefix_append _ _)

/-- A node is finished when its successors are seen. -/
theorem finish (hwalk : walk.Along next n path) (h : walk.Scans next n path v (next v) walk') :
    walk.Visits next n path v (walk'.finish v) := by
  unfold Walk.finish
  rw [h.index]
  split
  next heq => exact h.close hwalk (Option.some.inj heq).symm
  next hne => exact h.leave hwalk fun heq => hne (congrArg some heq.symm)

end Scans

end Walk

/-- A visit enters its node and finishes it. -/
theorem visits_visit {next : Nat → List Nat} {n fuel v : Nat} {path : List Nat} {walk : Walk}
    (hclosed : Closed next n) (h : walk.Along next n path) (hv : v < n) (hnew : walk.index? v = none)
    (hpath : ∀ r ∈ path, Leads next r v) (hfuel : n ≤ path.length + fuel) :
    walk.Visits next n path v (visit next fuel walk v) := by
  induction fuel generalizing walk v path with
  | zero => exact absurd hfuel (Nat.not_le.2 (h.length_lt hv hnew))
  | succ fuel ih =>
    have hdescend (walk' : Walk) (w : Nat) (hw : w ∈ next v) (halong : walk'.Along next n (v :: path))
        (hnew' : walk'.index? w = none) :
        walk'.Visits next n (v :: path) w (visit next fuel walk' w) := by
      refine ih halong (hclosed v hv w hw) hnew' (List.forall_mem_cons.2 ⟨.single hw, ?_⟩) ?_
      · exact fun r hr => (hpath r hr).tail hw
      · rw [List.length_cons]
        omega
    have hseen := (h.enter hv hnew hpath).foldl_look (visit next fuel) hdescend fun _ => id
    exact hseen.finish h

end Stratalog.Digraph
