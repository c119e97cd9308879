import EntityEngine.Store.Catalog

/-!
What follows for rows that refer to others when those go away or change: they go away or change as
well, as their references say, and so on. In the end every row has to find what it refers to.
-/

namespace EntityEngine.Store

open Sql

namespace Database

/-- The tables that may refer to a table. Those of the engine refer to definitions only. -/
def referring (db : Database) (t : Table) : List Table :=
  let own :=
    if t.name = EngineTable.definitions.name then [db.fieldTable, db.documentTable] else []
  own ++ db.tables

/-- The references to a table, the newest first. -/
def referrers (db : Database) (t : Table) : List (Table × ForeignKey) :=
  (db.referring t).reverse.flatMap fun u =>
    (u.foreignKeys.reverse.filter fun k => Text.sameFold k.table t.name).map (u, ·)

/-- The fault of the first reference to a table that cannot be followed, of those that are
meant. -/
def referrerFault? (db : Database) (t : Table) (isMeant : ForeignKey → Bool) : Option Sql.Fault :=
  (db.referrers t).findSome? fun (u, k) =>
    if isMeant k && (t.parentKey? k).isNone then some (u.mismatch k) else none

/-- The fault of the first reference of a table, else of the first one to it, that cannot be
followed, of those that are meant. -/
def followFault? (db : Database) (t : Table) (isMeant isReferrerMeant : ForeignKey → Bool) :
    Option Sql.Fault :=
  (t.referenceFault? db.anyTable? isMeant).orElse fun _ => db.referrerFault? t isReferrerMeant

/-- The faults of references that an update of some extent cannot follow. If it changes anything
that is referred to, or that refers to something, all references to the table are looked at. -/
def updateFaults (db : Database) (t : Table) (x : Extent) : List Sql.Fault :=
  let isConcerned := t.foreignKeys.any (t.changesReference x) ||
    (db.referrers t).any fun (_, k) => t.changesReferred x k
  (if isConcerned then (db.referrerFault? t fun _ => true).toList else []) ++
    (db.followFault? t (t.changesReference x) (t.changesReferred x)).toList

/-- Whether all rows find what they refer to, once a table is changed and what follows is done. -/
def keepsReferences (db : Database) (t : Table) : Bool :=
  (db.referring t).all fun u => u.keepsReferences db.anyTable? fun _ => true

/-- A table as it is now. -/
def current (db : Database) (t : Table) : Table := (db.anyTable? t.name).getD t

/-- How many changes may follow from one another. -/
def maxDepth : Nat := 1000

/-- The action of a reference on a row that has changed, or is gone. -/
def actionFor (k : ForeignKey) (new : Option Row) : ReferenceAction :=
  if new.isSome then k.onUpdate else k.onDelete

/-- The database once everything is done that follows from a row which has changed, or is gone. -/
def follow (context : Setting) :
    Nat → Database → Table → Row → Option Row → Except Sql.Fault Database
  | 0, _, _, _, _ => .error (.other "too many levels of trigger recursion")
  | fuel + 1, db, t, old, new =>
    (db.referrers t).foldlM (fun db (child, k) => do
      let action := actionFor k new
      match t.links? k with
      | none => return db
      | some links =>
        if action = .none || new.any (t.isSameToOthers links old) then return db
        let child := db.current child
        let affected := child.rows.filter fun row => child.refersTo t links row old
        if action = .restrict && !affected.isEmpty then throw .foreignKey
        let changes ← child.referrerChanges t context action links new
        affected.foldlM (fun db row => do
          let child := db.current child
          match child.row? row.number with
          | none => return db
          | some row =>
            if action = .cascade && new.isNone then
              follow context fuel (db.putAny (child.withoutRow row.number)) child row none
            else
              match ← child.strict.change context changes row with
              | none => return db
              | some s =>
                let changed := { child with rows := Table.place s.row s.others }
                follow context fuel (db.putAny changed) child row (some s.row)) db) db

/-- The database without a row of a table, and what follows. -/
def removeRow (db : Database) (context : Setting) (t : Table) (row : Row) :
    Except Sql.Fault Database :=
  let t := db.current t
  match t.row? row.number with
  | none => .ok db
  | some row => follow context maxDepth (db.putAny (t.withoutRow row.number)) t row none

/-- The database with a row stored, in place of another one if that is given, and what follows. The
rows in its way are removed first. -/
def storeRow (db : Database) (context : Setting) (t : Table) (s : Settled) (old : Option Row) :
    Except Sql.Fault Database := do
  let isKept (r : Row) : Bool :=
    s.others.any (fun other => other.number == r.number) ||
      old.any fun other => other.number == r.number
  let db ← (t.rows.filter fun r => !isKept r).foldlM (fun db r => db.removeRow context t r) db
  let t := db.current t
  match old with
  | none => return db.putAny (t.withRow s.row)
  | some row =>
    follow context maxDepth (db.putAny ((t.withoutRow row.number).withRow s.row)) t row
      (some s.row)

end Database

end EntityEngine.Store
