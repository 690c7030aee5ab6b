/-
This file is a store of files by their paths, with the operations of a file system
that a program calls: to create, change, remove and rename a file. For each operation
it says what is at the paths it names and that nothing else has changed.
-/

import Mathlib.Logic.Function.Basic

namespace Files

/-- The file at each path, where there is one. -/
abbrev Store (Path Entry : Type*) := Path → Option Entry

variable {Path Entry : Type*} [DecidableEq Path]

def create (store : Store Path Entry) (path : Path) (entry : Entry) : Store Path Entry :=
  Function.update store path (some entry)

def modify (store : Store Path Entry) (path : Path) (change : Entry → Entry) :
    Store Path Entry :=
  Function.update store path ((store path).map change)

def remove (store : Store Path Entry) (path : Path) : Store Path Entry :=
  Function.update store path none

/-- A rename takes the place of the file at its target, in one step. -/
def rename (store : Store Path Entry) (source target : Path) : Store Path Entry :=
  remove (Function.update store target (store source)) source

variable (store : Store Path Entry) {path other : Path}

@[simp] theorem create_self (path : Path) (entry : Entry) :
    create store path entry path = some entry :=
  Function.update_self path _ store

theorem create_other (different : other ≠ path) (entry : Entry) :
    create store path entry other = store other :=
  Function.update_of_ne different _ store

@[simp] theorem modify_self (path : Path) (change : Entry → Entry) :
    modify store path change path = (store path).map change :=
  Function.update_self path _ store

theorem modify_other (different : other ≠ path) (change : Entry → Entry) :
    modify store path change other = store other :=
  Function.update_of_ne different _ store

@[simp] theorem remove_self (path : Path) : remove store path path = none :=
  Function.update_self path _ store

theorem remove_other (different : other ≠ path) : remove store path other = store other :=
  Function.update_of_ne different _ store

@[simp] theorem rename_source (source target : Path) : rename store source target source = none :=
  remove_self _ source

theorem rename_target {source target : Path} (different : target ≠ source) :
    rename store source target target = store source :=
  (remove_other _ different).trans (Function.update_self target _ store)

theorem rename_other {source target : Path} (notSource : other ≠ source)
    (notTarget : other ≠ target) : rename store source target other = store other :=
  (remove_other _ notSource).trans (Function.update_of_ne notTarget _ store)

end Files
