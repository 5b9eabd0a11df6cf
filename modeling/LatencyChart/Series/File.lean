import LatencyChart.Raster.Png
import LatencyChart.Series.Reader
import LatencyChart.Storage.Store

/-!
# Loading a series from a file

A path that cannot be opened is an access fault. A directory can be opened, but its first
line cannot be read.
-/

namespace LatencyChart

/-- The bytes of a file. -/
def Content.toBytes : Content → Bytes
  | .bytes content => content
  | .picture bitmap => Png.encode bitmap

/-- What reading an opened entry gives. -/
def Entry.readEvents : Entry → List ReadEvent
  | .directory => [.failed (.system .isDirectory)]
  | .file content => [.chunk content.toBytes]

namespace Series

/-- Load a series from what opening a path gave. -/
def ofOpened (path : PathName) : Except IoFault Entry → Loading
  | .ok entry => ofEvents entry.readEvents
  | .error cause => ⟨.error (.access path cause), []⟩

/-- Load a series from a path in a store. -/
def ofPath (path : PathName) (store : Store) : Loading :=
  ofOpened path (store.open? path)

end Series
end LatencyChart
