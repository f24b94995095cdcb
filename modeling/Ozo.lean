import Ozo.Connection
import Ozo.Impl.AsyncCancel
import Ozo.Impl.AsyncConnect
import Ozo.Failover.Strategy
import Ozo.Io.Jsonb
import Ozo.Benchmarks.Performance
import Ozo.Benchmarks.Coroutines
