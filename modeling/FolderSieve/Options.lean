/-!
# Options

A folder has three options: whether its name makes a generic rule (`generic`), whether that rule
is made from the whole path (`fullpath`), and whether its mail is marked as read (`silent`).  A
configuration writes an `Override`, which may leave each of them open; an open option takes the
value of the enclosing folder, and is never read as false.
-/

namespace FolderSieve

/-- The options of a folder, all settled. -/
structure Options where
  generic : Bool
  fullpath : Bool
  silent : Bool
  deriving DecidableEq, Repr

/-- The options as written; `none` takes what the enclosing folder has. -/
structure Override where
  generic : Option Bool := none
  fullpath : Option Bool := none
  silent : Option Bool := none
  deriving DecidableEq, Repr

namespace Options

/-- What holds at the top of a domain. -/
def root : Options :=
  ⟨true, false, false⟩

end Options

namespace Override

/-- Settles the open options with those of the enclosing folder. -/
def resolve (o : Override) (parent : Options) : Options :=
  ⟨o.generic.getD parent.generic, o.fullpath.getD parent.fullpath, o.silent.getD parent.silent⟩

/-- What `mask` sets wins over `o`. -/
def maskWith (o mask : Override) : Override :=
  ⟨mask.generic.or o.generic, mask.fullpath.or o.fullpath, mask.silent.or o.silent⟩

/-- One override for a row of them, the outermost first. -/
def flatten (os : List Override) : Override :=
  os.foldl maskWith {}

/-- The mail of the catch-all folder counts as read, and no rule is made from its name. -/
def unknownMask : Override :=
  { generic := some false, silent := some true }

end Override

end FolderSieve
