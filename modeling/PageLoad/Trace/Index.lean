import PageLoad.Trace.Page
import Std.Data.HashMap

/-!
A page as it is put together: its records are entered into two maps, one after another, and what
each asset loads is put in order when all of them are in.
-/

namespace PageLoad.Trace

structure Index where
  assets : Std.HashMap String Asset
  children : Std.HashMap String (List String)
  totalBytes : Nat

namespace Index

def empty : Index := ⟨∅, ∅, 0⟩

def childrenWith (index : Index) (record : Asset) : Std.HashMap String (List String) :=
  if record.id = record.parentId then index.children
  else
    index.children.insert record.parentId
      (index.children.getD record.parentId [] ++ [record.id])

/-- Enters a record. The lengths have to add up to a number of 64 bits. -/
def add? (index : Index) (record : Asset) : Option Index :=
  if index.totalBytes + record.length < UInt64.size then
    some
      { assets := index.assets.insert record.id record
        children := index.childrenWith record
        totalBytes := index.totalBytes + record.length }
  else none

def sort (index : Index) : Index :=
  { index with children := index.children.map fun _ ids => ids.mergeSort fun a b => decide (a ≤ b) }

def ofRecords? (records : List Asset) : Option Index := (records.foldlM add? empty).map sort

def asset? (index : Index) (id : String) : Option Asset := index.assets[id]?

def childrenOf (index : Index) (id : String) : List String := index.children.getD id []

def size (index : Index) : Nat := index.assets.size

end Index

end PageLoad.Trace
