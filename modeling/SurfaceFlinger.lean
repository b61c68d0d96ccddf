import SurfaceFlinger.Geometry.Rect
import SurfaceFlinger.Geometry.Float32
import SurfaceFlinger.Geometry.Mat4
import SurfaceFlinger.Ledger.SyncPoints
import SurfaceFlinger.Layer.BufferLayer
import SurfaceFlinger.Layer.SourceBounds
import SurfaceFlinger.Latch.LatchBuffer
import SurfaceFlinger.Latch.Exits
import SurfaceFlinger.Latch.Unlocked
import SurfaceFlinger.Runs.Step
import SurfaceFlinger.Runs.Clone
import SurfaceFlinger.Runs.Retry
import SurfaceFlinger.Runs.Cycle
import SurfaceFlinger.Protocol.Wakeups
import SurfaceFlinger.Protocol.Handshake
import SurfaceFlinger.Composition.ClientComposition
import SurfaceFlinger.Composition.TextureTransform
