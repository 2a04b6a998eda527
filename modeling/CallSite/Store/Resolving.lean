import CallSite.Resolver
import CallSite.Store.Basic

/-!
# Resolving from stored blobs

A resolver that has no other source of atlases asks the file store for them.
-/

namespace CallSite.Store

def tell (event : Event) : StateM Surroundings Unit :=
  modify fun s => { s with told := event :: s.told }

/-- The atlas of a module, loaded if nothing is remembered for it. -/
def atlas (path : ModulePath) (r : Resolver) : StateM Surroundings (Option Atlas × Resolver) :=
  r.atlas (fun path => (load path).run) tell path

/-- The position of a call site, from the atlas that is remembered or loaded. -/
def resolve (path : ModulePath) (id : SymbolId) (offset : Int64) (r : Resolver) :
    StateM Surroundings (Option Position × Resolver) :=
  r.resolve (fun path => (load path).run) tell path id offset

end CallSite.Store
