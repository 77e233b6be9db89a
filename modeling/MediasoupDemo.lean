import MediasoupDemo.Mp4.Drift
import MediasoupDemo.Mp4.ChunkOffsets
import MediasoupDemo.Mp4.Stopping
import MediasoupDemo.Mp4.StaleFrames
import MediasoupDemo.Mp4.ParameterSets
import MediasoupDemo.Rtmp.OutputStream
import MediasoupDemo.Rtmp.RelativeTimestamps
import MediasoupDemo.Rtmp.ChunkSizeChange
import MediasoupDemo.Rtmp.Delivery
import MediasoupDemo.Rtmp.CallSafety
import MediasoupDemo.Rtmp.Reconnect
import MediasoupDemo.Rtmp.Results
import MediasoupDemo.Rtmp.Handshake
import MediasoupDemo.Flv.SequenceHeaders
import MediasoupDemo.Flv.PendingFrames
import MediasoupDemo.Flv.TagQueue
import MediasoupDemo.Flv.SampleFailures
import MediasoupDemo.Encoder.Agreement
import MediasoupDemo.Encoder.Timestamps
import MediasoupDemo.Encoder.FpsRange
import MediasoupDemo.Encoder.RotatedFrame
import MediasoupDemo.Protoo.Closing
import MediasoupDemo.Protoo.Interleaving
import MediasoupDemo.Protoo.Interference
import MediasoupDemo.Protoo.ListenerEvents
import MediasoupDemo.Room.ShownPeers
import MediasoupDemo.Room.ActiveSpeaker
import MediasoupDemo.Room.Enabling
import MediasoupDemo.Room.AudioModes
import MediasoupDemo.Room.Capture
import MediasoupDemo.Call.Conversations
import MediasoupDemo.Call.Reset
import MediasoupDemo.Socket.ListenerProtocol
