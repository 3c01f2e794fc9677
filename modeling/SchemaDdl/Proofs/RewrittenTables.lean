import SchemaDdl.Proofs.Resolution

/-!
# Tables rewritten in place

A schema can be resolved without a second copy of its tables: they are taken one
after another, and each has its columns merged where it stands, while the tables
behind it still have theirs to come. A table that is taken late then looks up
tables that are not what they were. `Schema.resolveInPlace` works like this, and
`resolveInPlace_eq` says that it comes to the same as gathering all foreign keys
first and merging all columns at the end.

The reason is that merging changes nothing but columns, and that of another
table only relations are looked at, and the key index instead of its columns. So
the tables in the middle of the loop are what gathering has come to so far,
merged already: `rewrite_rewritten` says that one turn of the loop keeps it so,
and the rest is an induction over the tables.
-/

namespace SchemaDdl

/-! ## The loop -/

/-- A schema in the middle of the loop: the first tables have their columns merged. -/
@[ext]
structure Rewriting where
  tables : Tables
  constraints : ConstraintIndex
  names : NameSource
  notes : List Note := []

namespace Rewriting

/-- The foreign keys of a table are gathered from the tables as they are by now, and its columns are
merged where it stands. -/
def rewrite (keys : KeyIndex) (globals : Settings) (w : Rewriting) (name : String) : Rewriting :=
  let declared := (w.tables.get? name).bind fun t => t.options.settings.constraints
  let g := GatheredKeys.ofTable w.tables keys (declared.getD globals.constraints) w.names name
  { tables :=
      match w.tables.get? name with
      | some t =>
        w.tables.insert name { t with fields := mergeColumns (keys.get? name) g.fields t.fields }
      | none => w.tables
    constraints :=
      if g.constraints.isEmpty then w.constraints
      else w.constraints.insert name (((w.constraints.get? name).getD {}).extend g.constraints)
    names := g.names
    notes := w.notes ++ g.notes }

def ofJoined (globals : Settings) (j : JoinedTables) : Rewriting :=
  j.tables.keys.foldl (rewrite j.keys globals)
    { tables := j.tables, constraints := j.constraints, names := j.names }

end Rewriting

def Schema.resolveInPlace (s : Schema) (defaults : Settings) (names : NameSource) : Resolution :=
  let globals := s.globals defaults
  let keyed := KeyedTables.ofTables globals s.tables
  let joined := JoinedTables.ofKeyed globals names keyed
  let rewritten := Rewriting.ofJoined globals joined
  let options := { s.options with
    primaryKeys := joined.keys
    constraints := rewritten.constraints }
  { schema := { options, tables := rewritten.tables }
    names := rewritten.names
    notes := keyed.notes ++ joined.notes ++ rewritten.notes }

/-! ## What is looked at -/

/-- The table without its columns. -/
def Table.bare (t : Table) : Table := { t with fields := {} }

section Bare

variable {ts ts' : Tables} (h : ∀ name, (ts'.get? name).map Table.bare = (ts.get? name).map Table.bare)

include h

theorem Tables.converse?_of_bare (table other : String) :
    ts'.converse? table other = ts.converse? table other := by
  have hbare (ts : Tables) : ts.converse? table other =
      (ts.get? other).map Table.bare >>= fun t => t.oneToMany.get? table := by
    rw [converse?]
    cases ts.get? other with
    | none => rfl
    | some t => rfl
  rw [hbare, hbare, h]

/-- What is gathered for a table does not depend on the columns of any table. -/
theorem GatheredKeys.ofTable_of_bare (keys : KeyIndex) (withConstraints : Bool) (names : NameSource)
    (table : String) :
    ofTable ts' keys withConstraints names table = ofTable ts keys withConstraints names table := by
  have hconverse := Tables.converse?_of_bare h table
  have hforeign : ts'.foreignKeys table = ts.foreignKeys table ∧
      ts'.oneSidedNotes table = ts.oneSidedNotes table := by
    have htable := h table
    cases ht : ts.get? table with
    | none =>
        rw [ht] at htable
        have ht' : ts'.get? table = none := Option.map_eq_none_iff.1 htable
        simp only [Tables.foreignKeys, Tables.oneSidedNotes, ht, ht']
        exact ⟨trivial, trivial⟩
    | some t =>
        rw [ht] at htable
        obtain ⟨t', ht', hbare⟩ := Option.map_eq_some_iff.1 htable
        have hmany : t'.manyToOne = t.manyToOne := by
          show t'.bare.manyToOne = t.bare.manyToOne
          rw [hbare]
        have hone : t'.oneToOne = t.oneToOne := by
          show t'.bare.oneToOne = t.bare.oneToOne
          rw [hbare]
        refine ⟨Tables.foreignKeys_congr ht ht' hmany hone hconverse, ?_⟩
        simp only [Tables.oneSidedNotes, ht, ht', hmany, hconverse]
  rw [ofTable, ofTable, hforeign.1, hforeign.2]

end Bare

/-! ## One turn and the whole loop -/

namespace ResolvedKeys

variable {globals : Settings} {j : JoinedTables} {r : ResolvedKeys}

/-- The columns of the tables gathered for so far, merged already. -/
def rewritten (j : JoinedTables) (r : ResolvedKeys) : Rewriting where
  tables := j.tables.map fun name t =>
    match r.foreign.lookup name with
    | some g => { t with fields := mergeColumns (j.keys.get? name) g.fields t.fields }
    | none => t
  constraints := r.constraints j.constraints
  names := r.names
  notes := r.notes

theorem bare_rewritten (j : JoinedTables) (r : ResolvedKeys) (name : String) :
    ((r.rewritten j).tables.get? name).map Table.bare = (j.tables.get? name).map Table.bare := by
  rw [rewritten, OrderedMap.get?_map, Option.map_map]
  congr 1
  funext t
  rw [Function.comp_apply]
  split
  · rfl
  · rfl

theorem lookup_concat {α : Type} (l : List (String × α)) (name name' : String) (a : α) :
    (l ++ [(name', a)]).lookup name =
      (l.lookup name).or (if name = name' then some a else none) := by
  rw [List.lookup_append, List.lookup_cons, List.lookup_nil]
  by_cases h : name = name'
  · rw [if_pos h, beq_iff_eq.2 h]
  · rw [if_neg h, beq_eq_false_iff_ne.2 h]

/-- A turn of the loop keeps what is gathered and what is merged together. -/
theorem rewrite_rewritten {e : String × Table} (he : j.tables.get? e.1 = some e.2)
    (hnew : r.foreign.lookup e.1 = none) :
    (r.rewritten j).rewrite j.keys globals e.1 = (r.add j globals e).rewritten j := by
  have hget : (r.rewritten j).tables.get? e.1 = some e.2 := by
    rw [rewritten, OrderedMap.get?_map, he, Option.map_some, hnew]
  have hgather (withConstraints : Bool) :
      GatheredKeys.ofTable (r.rewritten j).tables j.keys withConstraints r.names e.1 =
        GatheredKeys.ofTable j.tables j.keys withConstraints r.names e.1 :=
    GatheredKeys.ofTable_of_bare (bare_rewritten j r) _ _ _ _
  have hnames : (r.rewritten j).names = r.names := rfl
  rw [Rewriting.rewrite, hget, Option.bind_some, hnames, hgather, add]
  generalize GatheredKeys.ofTable j.tables j.keys
    (e.2.options.settings.constraints.getD globals.constraints) r.names e.1 = g
  refine Rewriting.ext ?_ ?_ rfl ?_
  · refine OrderedMap.ext_get? ?_ fun name => ?_
    · rw [OrderedMap.keys_insert, if_pos (OrderedMap.mem_keys_of_get? hget), rewritten, rewritten,
        OrderedMap.keys_map, OrderedMap.keys_map]
    · rw [OrderedMap.get?_insert, rewritten, rewritten, OrderedMap.get?_map, OrderedMap.get?_map,
        lookup_concat]
      by_cases hname : name = e.1
      · rw [if_pos hname, hname, he, hnew, if_pos rfl]
        rfl
      · rw [if_neg hname, if_neg hname, Option.or_none]
  · show addTo (r.constraints j.constraints) (e.1, g) =
      (r.foreign ++ [(e.1, g)]).foldl addTo j.constraints
    rw [List.foldl_append]
    rfl
  · show r.notes ++ g.notes = (r.foreign ++ [(e.1, g)]).flatMap fun e => e.2.notes
    rw [List.flatMap_append, List.flatMap_singleton]
    rfl

/-- The loop over some of the tables, none of them gathered for before. -/
theorem foldl_rewrite_rewritten {l : List (String × Table)}
    (hl : ∀ e ∈ l, j.tables.get? e.1 = some e.2) (hnodup : (l.map Prod.fst).Nodup)
    (hnew : ∀ e ∈ l, r.foreign.lookup e.1 = none) :
    (l.map Prod.fst).foldl (Rewriting.rewrite j.keys globals) (r.rewritten j) =
      (l.foldl (add j globals) r).rewritten j := by
  induction l generalizing r with
  | nil => rfl
  | cons e l ih =>
      rw [List.map_cons, List.nodup_cons] at hnodup
      rw [List.map_cons, List.foldl_cons, List.foldl_cons,
        rewrite_rewritten (hl e List.mem_cons_self) (hnew e List.mem_cons_self)]
      refine ih (fun e' he' => hl e' (List.mem_cons_of_mem _ he')) hnodup.2 fun e' he' => ?_
      have hne : e'.1 ≠ e.1 := by
        intro heq
        exact hnodup.1 (heq ▸ List.mem_map_of_mem he')
      rw [add, lookup_concat, hnew e' (List.mem_cons_of_mem _ he'), if_neg hne]
      rfl

theorem rewritten_ofJoined (globals : Settings) (j : JoinedTables) :
    Rewriting.ofJoined globals j = (ofJoined globals j).rewritten j := by
  have hstart : ({ tables := j.tables, constraints := j.constraints, names := j.names } :
      Rewriting) = rewritten j { names := j.names } :=
    Rewriting.ext (OrderedMap.map_eq_self fun _ _ _ => rfl).symm rfl rfl rfl
  rw [Rewriting.ofJoined, hstart]
  exact foldl_rewrite_rewritten (fun e he => OrderedMap.mem_entries_iff.1 he) j.tables.nodup
    fun e he => rfl

/-- When the loop is over, foreign keys are gathered for every table. -/
theorem tables_rewritten_ofJoined (globals : Settings) (j : JoinedTables) :
    ((ofJoined globals j).rewritten j).tables = j.tables.map fun name t =>
      { t with
        fields := mergeColumns (j.keys.get? name) ((ofJoined globals j).fields name) t.fields } := by
  refine OrderedMap.ext_get? ?_ fun name => ?_
  · rw [rewritten, OrderedMap.keys_map, OrderedMap.keys_map]
  · rw [rewritten, OrderedMap.get?_map, OrderedMap.get?_map]
    cases ht : j.tables.get? name with
    | none => rfl
    | some t =>
        obtain ⟨g, hg, -⟩ := lookup_foreign_of_table globals ht
        rw [Option.map_some, Option.map_some, fields, hg]

end ResolvedKeys

/-- Merging the columns of each table where it stands comes to the same as gathering all foreign
keys first. -/
theorem Schema.resolveInPlace_eq (s : Schema) (defaults : Settings) (names : NameSource) :
    s.resolveInPlace defaults names = s.resolve defaults names := by
  simp only [resolveInPlace, resolve, ResolvedKeys.rewritten_ofJoined,
    ResolvedKeys.tables_rewritten_ofJoined]
  rfl

end SchemaDdl
