namespace PluginHost

/-- The phases that the managers are driven through. -/
inductive Phase where
  | init | postInit | preUpdate | update | postUpdate | release | postRelease
  deriving DecidableEq, Repr

namespace Phase

def debug : Phase → String
  | init => "Init" | postInit => "PostInit" | preUpdate => "PreUpdate" | update => "Update"
  | postUpdate => "PostUpdate" | release => "Release" | postRelease => "PostRelease"

/-- The phase in running text. -/
def name : Phase → String
  | init => "init" | postInit => "post_init" | preUpdate => "pre_update" | update => "update"
  | postUpdate => "post_update" | release => "release" | postRelease => "post_release"

def all : List Phase := [init, postInit, preUpdate, update, postUpdate, release, postRelease]

def ofName? (name : String) : Option Phase := all.find? (·.name == name)

end Phase

/-- A manager is attached once, when it is registered, and then driven through phases. -/
inductive Hook where
  | attach
  | phase (phase : Phase)
  deriving DecidableEq, Repr

namespace Hook

/-- The hook in running text. -/
def name : Hook → String
  | attach => "attach"
  | phase p => p.name

def ofName? (name : String) : Option Hook :=
  if name = attach.name then some attach else (Phase.ofName? name).map phase

end Hook

end PluginHost
