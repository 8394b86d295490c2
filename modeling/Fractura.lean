import Fractura.Lib.KeyTable
import Fractura.Lib.Prog
import Fractura.Lib.Weave
import Fractura.Lib.Group
import Fractura.Lib.Text
import Fractura.Motor
import Fractura.Db
import Fractura.Sql
import Fractura.Chilecompra.Frames
import Fractura.Chilecompra.Detect
import Fractura.Corrupcion
import Fractura.Routers
import Fractura.Statements
import Fractura.Chilecompra.Ajeno
import Fractura.Chilecompra.Guardar
import Fractura.Chilecompra.Reglas
import Fractura.Invariante
import Fractura.Chilecompra.OtrasFuentes
import Fractura.Chilecompra.Recarga
import Fractura.Chilecompra.Grupos
import Fractura.Chilecompra.Claves
import Fractura.Chilecompra.Proveedores
import Fractura.Lib.Window
import Fractura.Chilecompra.Fraccionamiento
import Fractura.Lib.Connection
import Fractura.Conexion
import Fractura.Concurrencia.Carga
import Fractura.Concurrencia.Deteccion
import Fractura.Concurrencia.Serial
import Fractura.Chilecompra.Redeteccion
import Fractura.Chilecompra.Orden
import Fractura.Casos
import Fractura.Chilecompra.Nombres
import Fractura.Chilecompra.Conservacion
import Fractura.Paginas.Grafo
import Fractura.Lib.Latest
import Fractura.Paginas.Entidad
import Fractura.Paginas.Vecinos
import Fractura.Lib.Cut
import Fractura.Paginas.Filtros
import Fractura.Paginas.Alertas
import Fractura.Importes
import Fractura.Montos
import Fractura.Chilecompra.Padres
import Fractura.Chilecompra.Versiones
import Fractura.Lib.Join
import Fractura.Severidad
import Fractura.Paginas.Ruts
import Fractura.Cliente.Hooks
import Fractura.Cliente.GlobeGraph
import Fractura.Cliente.StatItem
import Fractura.Caidas.Carga
import Fractura.Caidas.Vida
import Fractura.Caidas.Deteccion
import Fractura.Servidor
import Fractura.Concurrencia.Servida
import Fractura.Concurrencia.Procesos
import Fractura.Chilecompra.Recuento
import Fractura.Paginas.Vistas
import Fractura.Http.Rutas
import Fractura.Http.Viaje
import Fractura.Http.Limites
import Fractura.Paginas.Portada
import Fractura.Cliente.Mostrado
import Fractura.Cliente.Detalle
