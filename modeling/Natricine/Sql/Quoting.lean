import Natricine.Library.Quoted
import Natricine.Sql.Dialect

/-! The quoting of `dialect.py`: the texts of its queries, and how a database reads the names in
them. Whether it tells two identifiers apart that differ in case is not considered. -/

namespace Natricine.Sql

open Quoted (Piece Scan)
open Text

def quoteMark : CodePoint := 34

def apostrophe : CodePoint := 39

def quote (name : Str) : Str := Quoted.quote quoteMark name

/-- What the queries insert: `{t}` and `{idx}`. -/
inductive Name where
  | t
  | idx
  deriving DecidableEq, Repr

def tableName (tablePrefix topic : Str) : Str := tablePrefix ++ topic

def identifier (table : Str) : Name → Str
  | .t => table
  | .idx => ofString "idx_" ++ table ++ ofString "_pending"

def quotedName (table : Str) (name : Name) : Str := quote (identifier table name)

structure Template where
  first : String
  rest : List (Name × String)

def inserted (names : Name → Str) (rest : List (Name × String)) : Str :=
  rest.flatMap (fun entry => names entry.1 ++ ofString entry.2)

def Template.render (names : Name → Str) (template : Template) : Str :=
  ofString template.first ++ inserted names template.rest

structure DialectQueries (α : Type) where
  createTable : α
  createIndex : α
  insert : α
  selectPending : α
  claimMessage : α
  ackMessage : α
  nackMessage : α

namespace DialectQueries

variable {α β : Type}

def map (f : α → β) (queries : DialectQueries α) : DialectQueries β where
  createTable := f queries.createTable
  createIndex := f queries.createIndex
  insert := f queries.insert
  selectPending := f queries.selectPending
  claimMessage := f queries.claimMessage
  ackMessage := f queries.ackMessage
  nackMessage := f queries.nackMessage

def toList (queries : DialectQueries α) : List α :=
  [queries.createTable, queries.createIndex, queries.insert, queries.selectPending,
    queries.claimMessage, queries.ackMessage, queries.nackMessage]

end DialectQueries

def sqliteTemplates : DialectQueries Template where
  createTable := ⟨"
                CREATE TABLE IF NOT EXISTS ", [(.t, " (
                    id INTEGER PRIMARY KEY AUTOINCREMENT,
                    uuid TEXT NOT NULL,
                    payload BLOB NOT NULL,
                    metadata TEXT NOT NULL DEFAULT '\x7b\x7d',
                    created_at TEXT NOT NULL DEFAULT (datetime('now')),
                    consumer_group TEXT NOT NULL,
                    claimed_at TEXT,
                    acked_at TEXT,
                    delivery_count INTEGER NOT NULL DEFAULT 0,
                    next_delivery_at TEXT NOT NULL DEFAULT (datetime('now'))
                )
            ")]⟩
  createIndex := ⟨"
                CREATE INDEX IF NOT EXISTS ", [(.idx, "
                ON "), (.t, " (consumer_group, next_delivery_at)
                WHERE acked_at IS NULL
            ")]⟩
  insert := ⟨"
                INSERT INTO ", [(.t, "
                    (uuid, payload, metadata, consumer_group, next_delivery_at)
                VALUES (?, ?, ?, ?, datetime('now'))
            ")]⟩
  selectPending := ⟨"
                SELECT id, uuid, payload, metadata, delivery_count
                FROM ", [(.t, "
                WHERE consumer_group = ?
                  AND datetime(next_delivery_at) <= datetime('now')
                  AND acked_at IS NULL
                  AND claimed_at IS NULL
                ORDER BY next_delivery_at, id
                LIMIT ?
            ")]⟩
  claimMessage := ⟨"
                UPDATE ", [(.t, "
                SET claimed_at = datetime('now'),
                    next_delivery_at = datetime('now', '+' || ? || ' seconds'),
                    delivery_count = delivery_count + 1
                WHERE id = ?
            ")]⟩
  ackMessage := ⟨"
                UPDATE ", [(.t, "
                SET acked_at = datetime('now')
                WHERE id = ?
            ")]⟩
  nackMessage := ⟨"
                UPDATE ", [(.t, "
                SET next_delivery_at = datetime('now'),
                    claimed_at = NULL
                WHERE id = ?
            ")]⟩

def postgresTemplates : DialectQueries Template where
  createTable := ⟨"
                CREATE TABLE IF NOT EXISTS ", [(.t, " (
                    id BIGSERIAL PRIMARY KEY,
                    uuid UUID NOT NULL,
                    payload BYTEA NOT NULL,
                    metadata JSONB NOT NULL DEFAULT '\x7b\x7d'::jsonb,
                    created_at TIMESTAMPTZ NOT NULL DEFAULT NOW(),
                    consumer_group VARCHAR(255) NOT NULL,
                    claimed_at TIMESTAMPTZ,
                    acked_at TIMESTAMPTZ,
                    delivery_count INTEGER NOT NULL DEFAULT 0,
                    next_delivery_at TIMESTAMPTZ NOT NULL DEFAULT NOW()
                )
            ")]⟩
  createIndex := ⟨"
                CREATE INDEX IF NOT EXISTS ", [(.idx, "
                ON "), (.t, " (consumer_group, next_delivery_at)
                WHERE acked_at IS NULL
            ")]⟩
  insert := ⟨"
                INSERT INTO ", [(.t, "
                    (uuid, payload, metadata, consumer_group, next_delivery_at)
                VALUES ($1, $2, $3, $4, NOW())
            ")]⟩
  selectPending := ⟨"
                SELECT id, uuid, payload, metadata, delivery_count
                FROM ", [(.t, "
                WHERE consumer_group = $1
                  AND next_delivery_at <= NOW()
                  AND acked_at IS NULL
                ORDER BY next_delivery_at, id
                LIMIT $2
                FOR UPDATE SKIP LOCKED
            ")]⟩
  claimMessage := ⟨"
                UPDATE ", [(.t, "
                SET claimed_at = NOW(),
                    next_delivery_at = NOW() + INTERVAL '1 second' * $1,
                    delivery_count = delivery_count + 1
                WHERE id = $2
            ")]⟩
  ackMessage := ⟨"
                UPDATE ", [(.t, "
                SET acked_at = NOW()
                WHERE id = $1
            ")]⟩
  nackMessage := ⟨"
                UPDATE ", [(.t, "
                SET next_delivery_at = NOW(),
                    claimed_at = NULL
                WHERE id = $1
            ")]⟩

def Dialect.templates : Dialect → DialectQueries Template
  | .sqlite => sqliteTemplates
  | .postgres => postgresTemplates

def Dialect.queriesForTopic (dialect : Dialect) (table : Str) : DialectQueries Str :=
  dialect.templates.map (Template.render (quotedName table))

def readIdentifier (text : Str) : Option (Str × Str) := Quoted.read quoteMark text

def isMark (c : CodePoint) : Bool := c = quoteMark || c = apostrophe

/-- The pieces of a text that stands outside of identifiers and literals, as it is written in a
query. -/
def piecesOf (text : String) : List (Piece CodePoint) :=
  (Quoted.scan isMark .outside (ofString text)).2

def Template.pieces (names : Name → Str) (template : Template) : List (Piece CodePoint) :=
  piecesOf template.first ++
    template.rest.flatMap (fun entry => .quoted quoteMark (names entry.1) :: piecesOf entry.2)

/-- At each place of the query where a name is inserted, reading an identifier consumes exactly what
was inserted and yields the name; and the names are all that the pieces of the query owe to the
table. -/
def ReadsAsMeant (table : Str) (template : Template) (query : Str) : Prop :=
  (∀ front name text back, template.rest = front ++ (name, text) :: back →
    ∃ before after, query = before ++ (quotedName table name ++ after) ∧
      before = Template.render (quotedName table) ⟨template.first, front⟩ ∧
      after = ofString text ++ inserted (quotedName table) back ∧
      readIdentifier (quotedName table name ++ after) = some (identifier table name, after)) ∧
  Quoted.pieces isMark query = some (template.pieces (identifier table))

def Balanced (text : Str) : Prop :=
  (Quoted.scan isMark .outside text).1 = .outside

def Separates (text : Str) : Prop := text.head?.any (fun c => c ≠ quoteMark) = true

instance (text : Str) : Decidable (Balanced text) := inferInstanceAs (Decidable (_ = _))

instance (text : Str) : Decidable (Separates text) := inferInstanceAs (Decidable (_ = _))

def Template.WellFormed (template : Template) : Prop :=
  Balanced (ofString template.first) ∧
    ∀ entry ∈ template.rest, Separates (ofString entry.2) ∧ Balanced (ofString entry.2)

section Reading

variable {names : Name → Str} {template : Template} {table : Str}

theorem Separates.split {text : Str} (separates : Separates text) :
    ∃ c rest, text = c :: rest ∧ c ≠ quoteMark := by
  cases text with
  | nil => cases separates
  | cons c rest => exact ⟨c, rest, rfl, of_decide_eq_true separates⟩

theorem read_inserted {text : String} (separates : Separates (ofString text)) (name : Name)
    (back : List (Name × String)) :
    readIdentifier (quotedName table name ++ (ofString text ++ inserted names back)) =
      some (identifier table name, ofString text ++ inserted names back) := by
  rcases separates.split with ⟨c, rest, opens, differs⟩
  apply Quoted.read_quote
  rw [opens]
  intro same
  exact differs (Option.some.inj same)

theorem scan_inserted {rest : List (Name × String)}
    (wellFormed : ∀ entry ∈ rest,
      Separates (ofString entry.2) ∧ Balanced (ofString entry.2)) :
    Quoted.scan isMark .outside (inserted (quotedName table) rest) =
      (.outside, rest.flatMap (fun entry => .quoted quoteMark (identifier table entry.1) ::
        piecesOf entry.2)) := by
  induction rest with
  | nil => rfl
  | cons entry rest ih =>
      rcases wellFormed entry List.mem_cons_self with ⟨separates, balanced⟩
      let name := identifier table entry.1
      have behind : Quoted.scan isMark (.closing quoteMark name) (ofString entry.2) =
          (.outside, .quoted quoteMark name :: piecesOf entry.2) := by
        rcases separates.split with ⟨c, later, opens, differs⟩
        rw [Balanced] at balanced
        rw [piecesOf]
        rw [opens] at balanced ⊢
        rw [Quoted.scan_closing differs, Quoted.emit, balanced]
      have remaining := ih (fun other member => wellFormed other (List.mem_cons_of_mem _ member))
      have opening : Quoted.scan isMark .outside (quotedName table entry.1) =
          (.closing quoteMark name, []) := Quoted.scan_quote rfl name
      have closing : Quoted.scan isMark (.closing quoteMark name)
          (ofString entry.2 ++ inserted (quotedName table) rest) =
          (.outside, (.quoted quoteMark name :: piecesOf entry.2) ++
            rest.flatMap (fun entry =>
              .quoted quoteMark (identifier table entry.1) :: piecesOf entry.2)) := by
        rw [Quoted.scan_append, behind, remaining]
      calc
        _ = Quoted.scan isMark .outside (quotedName table entry.1 ++
            (ofString entry.2 ++ inserted (quotedName table) rest)) := by
          rw [inserted, List.flatMap_cons, List.append_assoc, inserted]
        _ = Quoted.scan isMark (.closing quoteMark name)
            (ofString entry.2 ++ inserted (quotedName table) rest) := by
          rw [Quoted.scan_append, opening, List.nil_append]
        _ = _ := closing

theorem pieces_of_wellFormed (wellFormed : template.WellFormed) :
    Quoted.pieces isMark (template.render (quotedName table)) =
      some (template.pieces (identifier table)) := by
  have first := wellFormed.1
  rw [Balanced] at first
  rw [Quoted.pieces, Template.render, Quoted.scan_append, first, scan_inserted wellFormed.2]
  rfl

theorem readsAsMeant_of_wellFormed (table : Str) (wellFormed : template.WellFormed) :
    ReadsAsMeant table template (template.render (quotedName table)) := by
  refine ⟨?_, pieces_of_wellFormed wellFormed⟩
  intro front name text back split
  have member : (name, text) ∈ template.rest := by
    rw [split]
    exact List.mem_append_right front List.mem_cons_self
  refine ⟨_, _, ?_, rfl, rfl, read_inserted (wellFormed.2 _ member).1 name back⟩
  simp only [Template.render, inserted, split, List.flatMap_append, List.flatMap_cons,
    List.append_assoc]

end Reading

section Texts

variable {first text between : List Char} {name second : Name}

theorem ofString_ofList (chars : List Char) :
    ofString (String.ofList chars) = chars.map ofChar := by
  rw [ofString, String.toList_ofList]

theorem wellFormed_one
    (holds : Balanced (first.map ofChar) ∧ Separates (text.map ofChar) ∧
      Balanced (text.map ofChar)) :
    Template.WellFormed ⟨String.ofList first, [(name, String.ofList text)]⟩ := by
  simp only [← ofString_ofList] at holds
  refine ⟨holds.1, ?_⟩
  intro entry member
  rw [List.mem_singleton.mp member]
  exact holds.2

theorem wellFormed_two
    (holds : Balanced (first.map ofChar) ∧
      (Separates (between.map ofChar) ∧ Balanced (between.map ofChar)) ∧
      Separates (text.map ofChar) ∧ Balanced (text.map ofChar)) :
    Template.WellFormed
      ⟨String.ofList first, [(name, String.ofList between), (second, String.ofList text)]⟩ := by
  simp only [← ofString_ofList] at holds
  refine ⟨holds.1, ?_⟩
  intro entry member
  rcases List.mem_cons.mp member with rfl | last
  · exact holds.2.1
  · rw [List.mem_singleton.mp last]
    exact holds.2.2

set_option maxRecDepth 4000 in
theorem sqlite_wellFormed : ∀ template ∈ sqliteTemplates.toList, template.WellFormed := by
  simp only [DialectQueries.toList, List.forall_mem_cons]
  refine ⟨?_, wellFormed_two (by decide +kernel), ?_, ?_, ?_, ?_, ?_, nofun⟩
  all_goals exact wellFormed_one (by decide +kernel)

set_option maxRecDepth 4000 in
theorem postgres_wellFormed : ∀ template ∈ postgresTemplates.toList, template.WellFormed := by
  simp only [DialectQueries.toList, List.forall_mem_cons]
  refine ⟨?_, wellFormed_two (by decide +kernel), ?_, ?_, ?_, ?_, ?_, nofun⟩
  all_goals exact wellFormed_one (by decide +kernel)

end Texts

theorem queriesForTopic_toList (dialect : Dialect) (table : Str) :
    (dialect.queriesForTopic table).toList =
      dialect.templates.toList.map (Template.render (quotedName table)) := rfl

theorem identifier_injective (name : Name) :
    Function.Injective (fun table => identifier table name) := by
  intro table other same
  cases name with
  | t => exact same
  | idx => exact List.append_cancel_left (List.append_cancel_right same)

/-- Whatever the topic, the seven queries of a dialect are read with the names as they were meant,
and no two topics share a name. -/
theorem queries_read_as_meant (dialect : Dialect) (tablePrefix topic : Str) :
    List.Forall₂ (ReadsAsMeant (tableName tablePrefix topic)) dialect.templates.toList
        (dialect.queriesForTopic (tableName tablePrefix topic)).toList ∧
      ∀ other name, quotedName (tableName tablePrefix other) name =
        quotedName (tableName tablePrefix topic) name → other = topic := by
  constructor
  · have wellFormed : ∀ template ∈ dialect.templates.toList, template.WellFormed := by
      cases dialect with
      | sqlite => exact sqlite_wellFormed
      | postgres => exact postgres_wellFormed
    rw [queriesForTopic_toList, List.forall₂_map_right_iff, List.forall₂_same]
    intro template member
    exact readsAsMeant_of_wellFormed _ (wellFormed template member)
  · intro other name same
    exact List.append_cancel_left (identifier_injective name (Quoted.quote_injective same))

end Natricine.Sql
