import Sinkhole.Tunnel.Platform

/-! # Applications outside the tunnel

The engine's own package never bypasses the tunnel. Packages that the user lists always do, and
system applications do as the policy says.
-/
namespace Sinkhole

inductive SystemAppExclusion where
  | none
  | all
  | allExceptBrowsers
deriving DecidableEq, Repr

def SystemAppExclusion.excludes (policy : SystemAppExclusion) (browsers : List String)
    (package : String) : Bool :=
  match policy with
  | .none => false
  | .all => true
  | .allExceptBrowsers => !browsers.contains package

def excludedPackages (policy : SystemAppExclusion) (listed : List String)
    (installed : List Application) (browsers : List String) (own : String) : List String :=
  (installed.filter fun app =>
    app.package != own &&
      (listed.contains app.package ||
        (app.system && policy.excludes browsers app.package))).map (·.package)

end Sinkhole
