import ResponseCheck.Proofs.Http.Framing
import ResponseCheck.Proofs.Http.Response

/-!
# The earliest empty line

Raw bytes fall apart at the earliest place where a line end stands twice. None of the two line ends,
taken twice, is part of the other one, so that bytes behind an empty line make no earlier one: they
are all added to the body.
-/

namespace ResponseCheck.Http

/-- The bytes of a line end that is followed by an empty line. -/
def LineEnd.twice : LineEnd → List UInt8
  | .lf => [0x0A, 0x0A]
  | .crlf => [0x0D, 0x0A, 0x0D, 0x0A]

/-- How raw bytes fall apart into a head and a body: at the earliest empty line, and if there is
none, all of them are the head. -/
inductive FallsApart (raw : List UInt8) : List UInt8 → List UInt8 → Prop
  | ended {head body : List UInt8} (ending : LineEnd) (hraw : raw = head ++ ending.twice ++ body)
      (hfirst : ∀ before ending' after, raw = before ++ LineEnd.twice ending' ++ after →
        head.length ≤ before.length) : FallsApart raw head body
  | whole (hnone : ∀ ending, ¬ LineEnd.twice ending <:+: raw) : FallsApart raw raw []

variable {raw head body : List UInt8} {b : UInt8} {ending ending' : LineEnd}

/-! ### Line ends -/

theorem LineEnd.twice_ne_nil (ending : LineEnd) : ending.twice ≠ [] := by
  cases ending <;> exact List.cons_ne_nil _ _

theorem LineEnd.eq_of_twice_infix (h : ending.twice <:+: ending'.twice) : ending = ending' := by
  revert h
  cases ending <;> cases ending' <;> decide

/-- The first byte tells which line end stands twice. -/
theorem LineEnd.eq_of_twice_append_eq (h : ending.twice ++ body = ending'.twice ++ head) :
    ending = ending' := by
  cases ending <;> cases ending' <;> simp_all [twice]

/-! ### Splitting raw bytes -/

theorem splitHead_twice_append (ending : LineEnd) (body : List UInt8) :
    splitHead (ending.twice ++ body) = ([], body) := by
  cases ending with
  | lf => simp [LineEnd.twice, splitHead, List.isPrefixOf]
  | crlf => simp [LineEnd.twice, splitHead, List.isPrefixOf]

theorem splitHead_cons_of_not_twice {rest : List UInt8}
    (h : ∀ ending, ¬ LineEnd.twice ending <+: b :: rest) :
    splitHead (b :: rest) = (b :: (splitHead rest).1, (splitHead rest).2) := by
  have hcrlf : ¬ [0x0D, 0x0A, 0x0D, 0x0A].isPrefixOf (b :: rest) = true :=
    fun hprefix => h .crlf (List.isPrefixOf_iff_prefix.mp hprefix)
  have hlf : ¬ [0x0A, 0x0A].isPrefixOf (b :: rest) = true :=
    fun hprefix => h .lf (List.isPrefixOf_iff_prefix.mp hprefix)
  rw [splitHead, if_neg hcrlf, if_neg hlf]

theorem fallsApart_splitHead (raw : List UInt8) :
    FallsApart raw (splitHead raw).1 (splitHead raw).2 := by
  induction raw with
  | nil =>
    refine .whole fun ending hinfix => ?_
    exact ending.twice_ne_nil (List.infix_nil.mp hinfix)
  | cons b rest ih =>
    by_cases hstart : ∃ ending, LineEnd.twice ending <+: b :: rest
    · obtain ⟨ending, body, hbody⟩ := hstart
      rw [← hbody, splitHead_twice_append]
      exact .ended ending rfl fun _ _ _ _ => Nat.zero_le _
    · have hstart : ∀ ending, ¬ LineEnd.twice ending <+: b :: rest := not_exists.mp hstart
      -- No empty line starts here, so that the earliest one is that of the rest.
      rw [splitHead_cons_of_not_twice hstart]
      generalize (splitHead rest).1 = head at ih ⊢
      generalize (splitHead rest).2 = body at ih ⊢
      cases ih with
      | ended ending hraw hfirst =>
        refine .ended ending (by rw [hraw]; rfl) fun before ending' after hsplit => ?_
        cases before with
        | nil => exact absurd ⟨after, hsplit.symm⟩ (hstart ending')
        | cons c before =>
          obtain ⟨-, hrest⟩ := List.cons.inj hsplit
          exact Nat.succ_le_succ (hfirst before ending' after hrest)
      | whole hnone =>
        refine .whole fun ending hinfix => ?_
        rcases List.infix_cons_iff.mp hinfix with hprefix | hinfix
        · exact hstart ending hprefix
        · exact hnone ending hinfix

/-- Raw bytes fall apart in one way only. -/
theorem FallsApart.unique {head' body' : List UInt8} (h : FallsApart raw head body)
    (h' : FallsApart raw head' body') : head = head' ∧ body = body' := by
  cases h with
  | ended ending hraw hfirst =>
    cases h' with
    | ended ending' hraw' hfirst' =>
      have hlength : head.length = head'.length :=
        Nat.le_antisymm (hfirst _ _ _ hraw') (hfirst' _ _ _ hraw)
      rw [hraw, List.append_assoc, List.append_assoc] at hraw'
      obtain ⟨hhead, hrest⟩ := List.append_inj hraw' hlength
      obtain rfl := LineEnd.eq_of_twice_append_eq hrest
      exact ⟨hhead, List.append_cancel_left hrest⟩
    | whole hnone => exact absurd ⟨head, body, hraw.symm⟩ (hnone ending)
  | whole hnone =>
    cases h' with
    | ended ending hraw _ => exact absurd ⟨head', body', hraw.symm⟩ (hnone ending)
    | whole _ => exact ⟨rfl, rfl⟩

/-- Raw bytes are split where they fall apart. -/
theorem fallsApart_iff : FallsApart raw head body ↔ splitHead raw = (head, body) := by
  constructor
  · intro h
    obtain ⟨hhead, hbody⟩ := (fallsApart_splitHead raw).unique h
    exact Prod.ext hhead hbody
  · intro h
    have hsplit := fallsApart_splitHead raw
    rwa [h] at hsplit

/-! ### More bytes -/

/-- Behind an empty line, more bytes go to the body. -/
theorem splitHead_append_of_infix (hraw : ending.twice <:+: raw) (more : List UInt8) :
    splitHead (raw ++ more) = ((splitHead raw).1, (splitHead raw).2 ++ more) := by
  induction raw with
  | nil => exact absurd (List.infix_nil.mp hraw) ending.twice_ne_nil
  | cons b rest ih =>
    by_cases hstart : ∃ ending, LineEnd.twice ending <+: b :: rest
    · obtain ⟨ending, body, hbody⟩ := hstart
      rw [← hbody, List.append_assoc, splitHead_twice_append, splitHead_twice_append]
    · have hstart : ∀ ending, ¬ LineEnd.twice ending <+: b :: rest := not_exists.mp hstart
      have hrest : ending.twice <:+: rest :=
        (List.infix_cons_iff.mp hraw).resolve_left (hstart ending)
      -- An empty line across the seam would have the one in the rest as a part.
      have hseam : ∀ ending, ¬ LineEnd.twice ending <+: b :: (rest ++ more) := by
        intro ending' hprefix
        rcases List.prefix_or_prefix_of_prefix hprefix (List.prefix_append (b :: rest) more)
          with hinside | hacross
        · exact hstart ending' hinside
        · obtain rfl : ending = ending' :=
            LineEnd.eq_of_twice_infix (hraw.trans hacross.isInfix)
          have hlong := hrest.length_le.trans_lt (Nat.lt_succ_self _)
          exact absurd hacross.length_le (Nat.not_le_of_lt hlong)
      rw [List.cons_append, splitHead_cons_of_not_twice hseam, splitHead_cons_of_not_twice hstart,
        ih hrest]

/-- What is read stays the same when more bytes follow an empty line, but for the body. -/
theorem Response.parse_append (hraw : ending.twice <:+: raw) (more : List UInt8) :
    parse (raw ++ more) =
      (parse raw).map fun response => { response with body := response.body ++ more } := by
  rw [parse, splitHead_append_of_infix hraw, parse]
  dsimp only
  cases parseHead (splitHead raw).1 <;> rfl

end ResponseCheck.Http
