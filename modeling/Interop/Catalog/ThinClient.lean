import Interop.Body

/-!
# The thin client test

One server of one node, and one application that connects to it.  Every pairing of the
development build with the newest release has to work together.
-/

namespace Interop.ThinClient

def testName : String := "thin_client_compatibility"

def serverAxis : String := "server_version"

def clientAxis : String := "thin_client_version"

def serverName : String := "ignite"

def clientName : String := "thin-client"

def entryPoint : String :=
  "org.apache.ignite.internal.ducktest.tests.thin_client_test.ThinClientSelfTestApplication"

def numNodes : Nat := 2

def axes : List Axis :=
  [⟨serverAxis, #[Version.devName, Version.latestName]⟩,
    ⟨clientAxis, #[Version.devName, Version.latestName]⟩]

def descriptors (case : TestCase) : Except CaseError (List Descriptor) := do
  let server ← case.version serverAxis
  let client ← case.version clientAxis
  return [Descriptor.server serverName server,
    (Descriptor.clientApplication clientName client entryPoint).withEndpointParam
      Descriptor.connectionParam serverName]

def body (_ : TestCase) : Body :=
  Body.start serverName fun
    | .error e => .ends (.error e)
    | .ok _ =>
      Body.runExpectingPass clientName fun
        | .error e => .ends (.error e)
        | .ok _ => Body.stop serverName .ends

def test : Except MatrixError Test := do
  let matrix ← Matrix.ofAxes axes
  return { name := testName, matrix, numNodes := some numNodes, timeout := none
           template := descriptors, body }

end Interop.ThinClient
