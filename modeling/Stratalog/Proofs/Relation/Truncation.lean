import Stratalog.Proofs.Relation.Join

/-!
# Joins that pass their limit

A join stops once more rows than its limit have come out. It says that it was truncated exactly when
the nested loop gives more rows than that, and what it gives is then a part of the rows of the nested
loop, longer than the limit by no more than a single probe can bring.

The way in which the pairs are enumerated, and the indices at hand when it is chosen, decide which part
that is. They make no difference to a join that keeps its limit.
-/

namespace Stratalog

/-- Joins for the same pairs are truncated together, and where they are not give the same rows. -/
theorem GivesWithin.agree {limit : Nat} {pairs rows rows' : List Row} {probes probes' : List (List Row)}
    {truncated truncated' : Bool} (h : GivesWithin limit pairs probes rows truncated)
    (h' : GivesWithin limit pairs probes' rows' truncated') :
    truncated' = truncated ∧ (truncated = false → rows'.Perm rows) := by
  have hsame : truncated' = truncated :=
    Bool.eq_iff_iff.2 (h'.truncated_iff.trans h.truncated_iff.symm)
  exact ⟨hsame, fun hwithin => (h'.perm (hsame.trans hwithin)).trans (h.perm hwithin).symm⟩

variable {keys : List KeyPart} {right : Relation} {columns : List Nat}

/-- A join is truncated exactly when the nested loop passes its limit. One that is not gives the rows of
the nested loop in some order. One that is gives some of them, more than the limit, and no more beyond
it than a single probe finds.

The same is so of every way of enumerating the pairs, over every relation of the same rows whatever
indices it carries: all are truncated together and, where they are not, give the same rows. -/
theorem joinRows_agrees_with_nestedLoop (hright : right.Coherent)
    (hkeys : keys.length = columns.length) (left : List Row) (limit : Nat)
    (emit : Row → Row → Option Row) :
    GivesWithin limit (nestedLoop left keys right.rows columns emit)
      ((joinRows left keys right columns limit emit).report.strategy.probes left keys right.rows
        columns emit)
      (joinRows left keys right columns limit emit).rows
      (joinRows left keys right columns limit emit).report.truncated ∧
    ∀ held : Relation, held.Coherent → held.rows = right.rows →
      ((joinRows left keys held columns limit emit).report.truncated =
          (joinRows left keys right columns limit emit).report.truncated ∧
        ((joinRows left keys right columns limit emit).report.truncated = false →
          (joinRows left keys held columns limit emit).rows.Perm
            (joinRows left keys right columns limit emit).rows)) ∧
      ∀ strategy : JoinStrategy, strategy.Serves columns →
        GivesWithin limit (nestedLoop left keys right.rows columns emit)
          (strategy.probes left keys right.rows columns emit)
          (strategy.rows left keys held columns limit emit)
          (joinRows left keys right columns limit emit).report.truncated ∧
        ((joinRows left keys right columns limit emit).report.truncated = false →
          (strategy.rows left keys held columns limit emit).Perm
            (joinRows left keys right columns limit emit).rows) := by
  have hchosen := joinRows_givesWithin hright hkeys left limit emit
  refine ⟨hchosen, fun held hheld hrows => ⟨?_, fun strategy hserves => ?_⟩⟩
  · exact hchosen.agree (hrows ▸ joinRows_givesWithin hheld hkeys left limit emit)
  · have hgives := strategy.givesWithin hserves hheld hkeys left limit emit
    rw [hrows] at hgives
    obtain ⟨hsame, hperm⟩ := hchosen.agree hgives
    exact ⟨hsame ▸ hgives, hperm⟩

/-- Which lines call at which stops. -/
def calls : Relation :=
  .ofRows "calls" ⟨[⟨"line", .int⟩, ⟨"stop", .int⟩]⟩
    [[.int 1, .int 10], [.int 1, .int 11], [.int 2, .int 20]]

/-- The lines taken on three trips. -/
def trips : List Row :=
  [[.int 1], [.int 2], [.int 1]]

/-- The stops on the trips, found through an index, with a limit. -/
def stopsWithin (limit : Nat) : JoinResult :=
  joinRows trips [.column 0] (calls.index [0]).2 [0] limit fun _ call => some [call.cell 1]

/-- The second trip brings the third of five stops and passes the limit of two. Within a limit of five
the trips, bucketed, have the same stops without an index. -/
theorem joinRows_agrees_with_nestedLoop_trips :
    (stopsWithin 2).rows = [[.int 10], [.int 11], [.int 20]] ∧
      GivesWithin 2 [[.int 10], [.int 11], [.int 20], [.int 10], [.int 11]]
        [[[.int 10], [.int 11]], [[.int 20]], [[.int 10], [.int 11]]] (stopsWithin 2).rows true ∧
      JoinStrategy.buildLeft.Serves [0] ∧
        (JoinStrategy.buildLeft.rows trips [.column 0] calls [0] 5
          fun _ call => some [call.cell 1]).Perm (stopsWithin 5).rows := by
  have hcalls : calls.Coherent := Relation.coherent_ofDistinct _ _ _
  have hkeys : [KeyPart.column 0].length = [0].length := rfl
  have hserves : JoinStrategy.buildLeft.Serves [0] := nofun
  obtain ⟨hpast, -⟩ := joinRows_agrees_with_nestedLoop (hcalls.snd_index [0]) hkeys trips 2
    fun _ call => some [call.cell 1]
  obtain ⟨-, hagree⟩ := joinRows_agrees_with_nestedLoop (hcalls.snd_index [0]) hkeys trips 5
    fun _ call => some [call.cell 1]
  obtain ⟨-, hways⟩ := hagree calls hcalls (by rw [Relation.rows_index])
  obtain ⟨-, hperm⟩ := hways .buildLeft hserves
  exact ⟨by decide +kernel, hpast, hserves, hperm (by decide +kernel)⟩

end Stratalog
