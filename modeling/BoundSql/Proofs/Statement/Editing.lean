import BoundSql.Proofs.Editing
import BoundSql.Statement.Delete
import BoundSql.Statement.Select
import BoundSql.Statement.Update

/-!
# Clauses in any order

Filters, queries, updates and deletes are made by edits.  An edit of a filter touches one of its
groups of predicates or, if another filter takes its place, both of them.  The other edits touch one
clause each.

Only the order of the edits of one clause counts (`Statement.clauses_commute`).  However the edits
of different clauses are interleaved, the statement is the same, with the same parameters in the
same order, or it is refused for the same reason.  Of the columns, the limit, the offset and the
collation only the last edit counts.
-/

namespace BoundSql

/-! ## Filters -/

namespace Filter

/-- The groups of predicates of a filter. -/
inductive Group where
  | conjuncts
  | alternatives
deriving DecidableEq

/-- One more predicate in a group. -/
def add (f : Filter) (p : Predicate) : Group → Filter
  | .conjuncts => f.and p
  | .alternatives => f.or p

theorem add_swap (f : Filter) (p p' : Predicate) {g g' : Group} (h : g ≠ g') :
    (f.add p g).add p' g' = (f.add p' g').add p g := by
  cases g with
  | conjuncts =>
    cases g' with
    | conjuncts => exact absurd rfl h
    | alternatives => rfl
  | alternatives =>
    cases g' with
    | conjuncts => rfl
    | alternatives => exact absurd rfl h

/-- An edit of a filter. -/
inductive Edit where
  | andWhere (column operator : String) (value : Value)
  | orWhere (column operator : String) (value : Value)
  | whereRaw (sql : String)
  | orWhereRaw (sql : String)
  | whereEq (column : String) (value : Value)
  | whereIn (column : String) (values : List Value)
  | whereNotIn (column : String) (values : List Value)
  | whereNull (column : String)
  | whereNotNull (column : String)
  /-- Another filter takes the place of the whole filter. -/
  | replace (filter : Filter)

namespace Edit

/-- What the edit makes of a filter. -/
def apply (f : Filter) : Edit → Filter
  | andWhere column operator value => f.andWhere column operator value
  | orWhere column operator value => f.orWhere column operator value
  | whereRaw sql => f.whereRaw sql
  | orWhereRaw sql => f.orWhereRaw sql
  | whereEq column value => f.whereEq column value
  | whereIn column values => f.whereIn column values
  | whereNotIn column values => f.whereNotIn column values
  | whereNull column => f.whereNull column
  | whereNotNull column => f.whereNotNull column
  | replace filter => filter

/-- The groups that the edit touches. -/
def groups : Edit → List Group
  | replace _ => [.conjuncts, .alternatives]
  | orWhere .. | orWhereRaw _ => [.alternatives]
  | _ => [.conjuncts]

theorem groups_ne_nil (e : Edit) : e.groups ≠ [] := by
  cases e <;> exact List.cons_ne_nil _ _

/-- An edit adds a predicate to one group, or it touches all groups. -/
theorem adds_or_all (e : Edit) :
    (∃ g p, e.groups = [g] ∧ ∀ f, apply f e = f.add p g) ∨ ∀ g, g ∈ e.groups := by
  cases e with
  | andWhere | whereRaw | whereEq | whereIn | whereNotIn | whereNull | whereNotNull =>
    exact Or.inl ⟨.conjuncts, _, rfl, fun _ => rfl⟩
  | orWhere | orWhereRaw => exact Or.inl ⟨.alternatives, _, rfl, fun _ => rfl⟩
  | replace filter =>
    right
    intro g
    cases g with
    | conjuncts => exact List.mem_cons_self
    | alternatives => exact List.mem_cons_of_mem _ List.mem_cons_self

theorem comm (f : Filter) (e e' : Edit) (h : e.groups.Disjoint e'.groups) :
    apply (apply f e) e' = apply (apply f e') e := by
  rcases e.adds_or_all with ⟨g, p, hg, he⟩ | hall
  · rcases e'.adds_or_all with ⟨g', p', hg', he'⟩ | hall'
    · rw [hg, hg', List.disjoint_singleton, List.mem_singleton] at h
      rw [he, he', he, he']
      exact add_swap f p p' (Ne.symm h)
    · exact absurd (hall' g) (h (hg ▸ List.mem_singleton_self g))
  · obtain ⟨g, hg⟩ := List.exists_mem_of_ne_nil _ e'.groups_ne_nil
    exact absurd hg (h (hall g))

end Edit

/-- A filter is edited group by group. -/
def editing : Editing Filter Edit Group where
  apply := Edit.apply
  parts := Edit.groups
  parts_ne_nil := Edit.groups_ne_nil
  comm := Edit.comm

end Filter

/-! ## Queries -/

namespace Select

/-- The clauses of a query. -/
inductive Clause where
  /-- A group of predicates of the filter. -/
  | filter (group : Filter.Group)
  | columns
  | grouping
  | order
  | limit
  | offset
  | collation
deriving DecidableEq

/-- The clause says what its last edit says. -/
def Clause.single : Clause → Bool
  | columns | limit | offset | collation => true
  | _ => false

/-- An edit of a query. -/
inductive Edit where
  | filter (edit : Filter.Edit)
  | columns (names : List String)
  | columnsRaw (sql : String)
  | groupBy (names : List String)
  | orderBy (term : String)
  | limit (n : UInt64)
  | offset (n : UInt64)
  | collate (collation : String)

namespace Edit

/-- What the edit makes of a query. -/
def apply (s : Select) : Edit → Select
  | filter edit => s.filtering fun f => edit.apply f
  | columns names => s.withColumns names
  | columnsRaw sql => s.withColumnsRaw sql
  | groupBy names => s.groupBy names
  | orderBy term => s.orderBy term
  | limit n => s.take n
  | offset n => s.skip n
  | collate collation => s.collate collation

/-- The clauses that the edit touches. -/
def clauses : Edit → List Clause
  | filter edit => edit.groups.map .filter
  | columns _ | columnsRaw _ => [.columns]
  | groupBy _ => [.grouping]
  | orderBy _ => [.order]
  | limit _ => [.limit]
  | offset _ => [.offset]
  | collate _ => [.collation]

theorem clauses_ne_nil (e : Edit) : e.clauses ≠ [] := by
  cases e with
  | filter edit => exact mt List.map_eq_nil_iff.mp edit.groups_ne_nil
  | columns | columnsRaw | groupBy | orderBy | limit | offset | collate =>
    exact List.cons_ne_nil _ _

theorem comm (s : Select) (e e' : Edit) (h : e.clauses.Disjoint e'.clauses) :
    apply (apply s e) e' = apply (apply s e') e := by
  -- edits of different clauses write different fields of the query
  cases e <;> cases e' <;> try rfl
  case filter.filter edit edit' =>
    have hfilter := Filter.Edit.comm s.filter edit edit' h.of_map
    exact congrArg (fun f => { s with filter := f }) hfilter
  all_goals exact absurd List.mem_cons_self (h List.mem_cons_self)

end Edit

/-- A query is edited clause by clause. -/
def editing : Editing Select Edit Clause where
  apply := Edit.apply
  parts := Edit.clauses
  parts_ne_nil := Edit.clauses_ne_nil
  comm := Edit.comm

/-- The query before any edit of a clause that says what its last edit says. -/
def without (s : Select) : Clause → Select
  | .columns => { s with columns := .all }
  | .limit => { s with limit := none }
  | .offset => { s with offset := none }
  | .collation => { s with collation := none }
  | .filter _ | .grouping | .order => s

/-- Such an edit writes its clause and nothing else, whatever the clause said before. -/
theorem Edit.writes {k : Clause} (hk : k.single) {e : Edit} (he : k ∈ e.clauses) (s : Select) :
    (e.apply s).without k = s.without k ∧ e.apply (s.without k) = e.apply s := by
  cases e with
  | filter edit =>
    obtain ⟨g, _, rfl⟩ := List.mem_map.mp he
    cases hk
  | groupBy | orderBy =>
    obtain rfl := List.mem_singleton.mp he
    cases hk
  | columns | columnsRaw | limit | offset | collate =>
    obtain rfl := List.mem_singleton.mp he
    exact ⟨rfl, rfl⟩

theorem overwritten {k : Clause} (hk : k.single) : editing.Overwritten k := by
  intro s e e' he he'
  have hclauses : e.clauses = [k] := he
  have hmem : k ∈ e.clauses := hclauses ▸ List.mem_singleton_self k
  have hrewrites := fun s => (Edit.writes hk he' s).2
  calc e'.apply (e.apply s)
      = e'.apply ((e.apply s).without k) := (hrewrites _).symm
    _ = e'.apply (s.without k) := by rw [(Edit.writes hk hmem s).1]
    _ = e'.apply s := hrewrites s

end Select

/-! ## Updates -/

namespace Update

/-- The clauses of an update. -/
inductive Clause where
  /-- A group of predicates of the filter. -/
  | filter (group : Filter.Group)
  | assignments
deriving DecidableEq

/-- An edit of an update. -/
inductive Edit where
  | set (column : String) (value : Value)
  | setRow (row : Row)
  | increment (column : String) (amount : Value)
  | filter (edit : Filter.Edit)

namespace Edit

/-- What the edit makes of an update. -/
def apply (u : Update) : Edit → Update
  | set column value => u.set column value
  | setRow row => u.setRow row
  | increment column amount => u.increment column amount
  | filter edit => u.filtering fun f => edit.apply f

/-- The clauses that the edit touches. -/
def clauses : Edit → List Clause
  | filter edit => edit.groups.map .filter
  | set .. | setRow _ | increment .. => [.assignments]

theorem clauses_ne_nil (e : Edit) : e.clauses ≠ [] := by
  cases e with
  | filter edit => exact mt List.map_eq_nil_iff.mp edit.groups_ne_nil
  | set | setRow | increment => exact List.cons_ne_nil _ _

theorem comm (u : Update) (e e' : Edit) (h : e.clauses.Disjoint e'.clauses) :
    apply (apply u e) e' = apply (apply u e') e := by
  cases e <;> cases e' <;> try rfl
  case filter.filter edit edit' =>
    have hfilter := Filter.Edit.comm u.filter edit edit' h.of_map
    exact congrArg (fun f => { u with filter := f }) hfilter
  all_goals exact absurd List.mem_cons_self (h List.mem_cons_self)

end Edit

/-- An update is edited clause by clause. -/
def editing : Editing Update Edit Clause where
  apply := Edit.apply
  parts := Edit.clauses
  parts_ne_nil := Edit.clauses_ne_nil
  comm := Edit.comm

end Update

/-! ## Deletes -/

/-- Of a delete only the filter is edited. -/
def Delete.editing : Editing Delete Filter.Edit Filter.Group where
  apply x e := x.filtering fun f => e.apply f
  parts := Filter.Edit.groups
  parts_ne_nil := Filter.Edit.groups_ne_nil
  comm x e e' h := congrArg (fun f => { x with filter := f }) (Filter.Edit.comm x.filter e e' h)

/-! ## All statements -/

namespace Statement

/-- Edits of different clauses may be made in any order.  Sequences that agree on each group of
predicates, on the assignments of an update and on each of the other clauses of a query are compiled
to the same statement, or refused for the same reason.  An edit of the columns, the limit, the
offset or the collation of a query is lost if there is another one of the same clause behind it. -/
theorem clauses_commute :
    (∀ (s : Select) (es es' : List Select.Edit), Select.editing.Agree es es' →
        (Select.editing.run s es).build = (Select.editing.run s es').build)
      ∧ (∀ (u : Update) (d : Dialect) (es es' : List Update.Edit), Update.editing.Agree es es' →
        (Update.editing.run u es).build d = (Update.editing.run u es').build d)
      ∧ (∀ (x : Delete) (d : Dialect) (es es' : List Filter.Edit), Filter.editing.Agree es es' →
        (Delete.editing.run x es).build d = (Delete.editing.run x es').build d)
      ∧ (∀ (f : Filter) (es es' : List Filter.Edit), Filter.editing.Agree es es' →
        (Filter.editing.run f es).compile = (Filter.editing.run f es').compile)
      ∧ ∀ (k : Select.Clause), k.single → ∀ (e e' : Select.Edit), e.clauses = [k] →
        e'.clauses = [k] → ∀ (s : Select) (front between back : List Select.Edit),
          (Select.editing.run s (front ++ e :: (between ++ e' :: back))).build
            = (Select.editing.run s (front ++ (between ++ e' :: back))).build := by
  refine ⟨fun s es es' h => ?_, fun u d es es' h => ?_, fun x d es es' h => ?_,
    fun f es es' h => ?_, fun k hk e e' he he' s front between back => ?_⟩
  · rw [h.run_eq]
  · rw [h.run_eq]
  · have hdelete : Delete.editing.Agree es es' := h
    rw [hdelete.run_eq]
  · rw [h.run_eq]
  · have hmem : k ∈ e'.clauses := he' ▸ List.mem_singleton_self k
    rw [(Select.overwritten hk).run_eq he hmem]

/-- Predicates of both groups of a filter. -/
def mingled : List Filter.Edit :=
  [.orWhere "z" "<" (.int 3), .whereEq "x" (.int 1), .orWhereRaw "w", .whereIn "y" [.int 2, .null]]

/-- The same predicates, one group after the other. -/
def grouped : List Filter.Edit :=
  [.whereEq "x" (.int 1), .whereIn "y" [.int 2, .null], .orWhere "z" "<" (.int 3), .orWhereRaw "w"]

/-- The parameters are in the order of the clauses, and the first of two limits is lost. -/
theorem clauses_commute_mingled :
    Filter.editing.Agree mingled grouped
      ∧ (Delete.editing.run { table := "t" } mingled).build .sqlite
          = .ok ⟨"DELETE FROM \"t\" WHERE (x = ? AND y IN (?, ?)) OR (z < ?) OR (w)",
            [.int 1, .int 2, .null, .int 3]⟩
      ∧ (Update.editing.run { table := "t" }
            (mingled.map .filter ++ [.increment "n" (.int 7)])).build .mysql
          = .ok ⟨"UPDATE `t` SET `n` = `n` + ? WHERE (x = ? AND y IN (?, ?)) OR (z < ?) OR (w)",
            [.int 7, .int 1, .int 2, .null, .int 3]⟩
      ∧ (Select.editing.run (.ofTable "t")
            (.limit 9 :: (.offset 2 :: .orderBy "b" :: mingled.map .filter ++ [.limit 5]))).build
          = .ok ⟨"SELECT * FROM t WHERE (x = ? AND y IN (?, ?)) OR (z < ?) OR (w)"
              ++ " ORDER BY b LIMIT 2, 5",
            [.int 1, .int 2, .null, .int 3]⟩ := by
  obtain ⟨hselect, hupdate, hdelete, _, hlost⟩ := clauses_commute
  have hfilter : Filter.editing.Agree mingled grouped := fun k => by cases k <;> rfl
  have hassigned : Update.editing.Agree (mingled.map .filter ++ [.increment "n" (.int 7)])
      (.increment "n" (.int 7) :: grouped.map .filter) := by
    intro k
    cases k with
    | filter g => cases g <;> rfl
    | assignments => rfl
  have hordered : Select.editing.Agree
      (.offset 2 :: .orderBy "b" :: mingled.map .filter ++ [.limit 5])
      (grouped.map .filter ++ [.orderBy "b", .limit 5, .offset 2]) := by
    intro k
    cases k with
    | filter g => cases g <;> rfl
    | columns | grouping | order | limit | offset | collation => rfl
  refine ⟨hfilter, (hdelete _ _ _ _ hfilter).trans rfl, (hupdate _ _ _ _ hassigned).trans rfl, ?_⟩
  exact (hlost .limit rfl (.limit 9) (.limit 5) rfl rfl _ [] _ []).trans
    ((hselect _ _ _ hordered).trans rfl)

end Statement

end BoundSql
