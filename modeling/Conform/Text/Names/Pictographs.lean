/-!
# Names of characters 1D000 and above

The names of notation, pictographs, tags and variation selectors,
in the written form that `CharacterName.search` reads.
-/

namespace Conform

/-- The names of the characters 1D000 and above. -/
def pictographNames : String := "
z1D000aBYZ=T:;MUSIC&>YMBOL_PSILIy_DASEIAy_P,ISPOM~Iy_OXEIA_EKF@ITIK@y_OXEIA_DIPLIy_V+EIA_EKF@ITIK@
y_V+EIA_DIPLIy_KATHISTIy>YRMATIKIy_P+AKLITIKIy_YPOKRISISy_YPOKRISIS_DIPLIy_KREMASTIy_APESO_EKF@ITIK@
y_EXO_EKF@ITIK@y_TE|IAy_K~TIMATAy_APOSTROFOSy_APOSTROFOS_DIPLIy>YNEVMAy_THITAy_OLIG@_+CHAI@
y_GORG@_+CHAI@y_PSIL@y_CHAMIL@y_VATHYy_IS@_+CHAI@y_K~TIMA_+CHAI@y_K~TIMATA_+CHAI@y>AXIMATAy_P+ICH@
y>TAVROS_APODEXIAy_OXEIAI_+CHAI@y_V+EIAI_+CHAI@y_APOD,MA_+CHAI@y_APOTHEMAy_KLASMAy_REVMA
y_PIASMA_+CHAI@y_T:AGMAy_=ATRICHISMAy>EISMAy>YNAGMA_+CHAI@y>YNAGMA_META>TAVROUy_OYR=ISMA_+CHAI@
y_THEMAy_|MOIy_DYOy_TRIAy_TESS,Ay_KRATIMATAy_APESO_EXO_NEOy_FTHORA_+CHAI@y_IMIFTHORAy_TROMIK@_+CHAI@
y_KATAVA_TROMIK@y_PELAST@y_PSIFIST@y_K@TEVMAy_CHOREVMA_+CHAI@y_RAPISMAy_P+AK&ESMA_+CHAI@
y_P+AKLITIKI_+CHAI@y_ICHAD:y_N=Ay_PETASMAy_K@TEVMA_&LOy_TROMIK@_&LOy>TRAGGISMATAy_GR@THISMATA
y_IS@_NEOy_OLIG@_NEOy_OXEIA_NEOy_PETASTIy_KOUFISMAy_PETASTOKOUFISMAy_KRATIMOKOUFISMAy_PELAST@_NEO
y_K~TIMATA_NEO_=Oy_K~TIMA_NEO_=Oy_YPSILIy_APOSTROFOS_NEOy_APOSTROFOI>YNDESMOS_NEOy_YPORROI
y_KRATIMOYPORRO@y_ELAFR@y_CHAMILIy_MIKR@_IS@y_V+EIA_NEOy_PIASMA_NEOy_PSIFIST@_NEOy_OM&@y_=TIK~OMA
y_LYGISMAy_P+AKLITIKI_NEOy_P+AK&ESMA_NEOy_ET,@_P+AK&ESMAy_KYLISMAy_=TIK~OKYLISMAy_TROMIK@_NEO
y_EKSTREPT@y>YNAGMA_NEOy>YRMAy_CHOREVMA_NEOy_EPEG,MAy>EISMA_NEOy_XIR@_KLASMAy_TROMIKOPSIFIST@
y_PSIFISTOLYGISMAy_TROMIKOLYGISMAy_TROMIKOP+AK&ESMAy_PSIFISTOP+AK&ESMAy_TROMIKOSYNAGMA
y_PSIFISTOSYNAGMAy_GORGOSYNTHET@y_+GOSYNTHET@y_ET,@_+GOSYNTHET@y_OYR=ISMA_NEOy_THEMATISMOS_ESO
y_THEMATISMOS_EXOy_THEMA_APLOUNy_THES_KAI_APOTHESy_KATAVASMAy_~DOF@@y_YF~_KATOy_YF~_=Oy>TAVROS
y_KLASMA_=Oy_DIPLI_+CHAI@y_KRATIMA_+CHAI@y_KRATIMA_&LOy_KRATIMA_NEOy_APOD,MA_NEOy_APLIy_DIPLI
y_TRIPLIy_TETRAPLIy_KOR@ISy_|IMMA_~OS_CHR@OUy_|IMMA_DYO_CHR@@y_|IMMA_TRI@_CHR@@y_|IMMA_TESS+@_CHR@@
y_|IMMA_IMISEOS_CHR@OUy_GORG@_NEO_=Oy_GORG@_P+ESTIGM~@_+IST,Ay_GORG@_P+ESTIGM~@_DEXIAy_DIGORG@
y_DIGORG@_P+ESTIGM~@_+IST,A_KATOy_DIGORG@_P+ESTIGM~@_+IST,A_=Oy_DIGORG@_P+ESTIGM~@_DEXIAy_TRIGORG@
y_+G@y_IMIDI+G@y_DI+G@y_AGOGI_POLI_+GIy_AGOGI_+GOT,Iy_AGOGI_+GIy_AGOGI_METRIAy_AGOGI_MESI
y_AGOGI_GORGIy_AGOGI_GORGOT,Iy_AGOGI_POLI_GORGIy_M+TYRIA_PROTOS_ICHOSy_M+TYRIA_&LI_PROTOS_ICHOS
y_M+TYRIA_DEYT,OS_ICHOSy_M+TYRIA_&LI_DEYT,OS_ICHOSy_M+TYRIA_TRITOS_ICHOSy_M+TYRIA_TRIF@IAS
y_M+TYRIA_TET+TOS_ICHOSy_M+TYRIA_TET+TOS_|GETOS_ICHOSy_M+TYRIA_|GETOS_ICHOSy_M+TYRIA_PLAGIOS_ICHOS
y_ISAKIA_TELOUS_ICHIMATOSy_APOSTROFOI_TELOUS_ICHIMATOSy_F=,OSIS_TETRAF@IASy_F=,OSIS_M@OF@IAS
y_F=,OSIS_DIF@IASy_M+TYRIA_V+YS_ICHOSy_M+TYRIA_PROTOV+YS_ICHOSy_M+TYRIA_PLAGIOS_TET+TOS_ICHOS
y_GORTHMIK@_N_APLOUNy_GORTHMIK@_N_DIPLOUNy_~+XIS_KAI_FTHORA_VOUy_IMIF@@y_IMIFTHOR@
y_FTHORA_+CHAI@_DEYT,OU_ICHOUy_FTHORA_DIAT@IKI_PAy_FTHORA_DIAT@IKI_N=Ay_FTHORA_NAOS_ICHOS
y_FTHORA_DIAT@IKI_DIy_FTHORA>KLIR@_DIAT@@_DIy_FTHORA_DIAT@IKI_KEy_FTHORA_DIAT@IKI_ZO
y_FTHORA_DIAT@IKI_NI_KATOy_FTHORA_DIAT@IKI_NI_=Oy_FTHORA_M&AK@_CHROMA_DIF@IAS
y_FTHORA_M&AK@_CHROMA_M@OF@IASy_FHTORA>KLIR@_CHROMA_VASISy_FTHORA>KLIR@_CHROMA>YNAFIy_FTHORA_N~=O
y_CHROA_ZYGOSy_CHROA_KLIT@y_CHROA>PATHIy_FTHORA_I_YFESIS_TET+TIMORI@y_FTHORA_~+M@IOS_=TIF@IA
y_YFESIS_TRITIMORI@y_DIESIS_TRITIMORI@y_DIESIS_TET+TIMORI@y_DIESIS_APLI_DYO_DODEKATA
y_DIESIS_M@OGRAMMOS_TESS,A_DODEKATAy_DIESIS_DIGRAMMOS_EX_DODEKATAy_DIESIS_TRIGRAMMOS_OKTO_DODEKATA
y_YFESIS_APLI_DYO_DODEKATAy_YFESIS_M@OGRAMMOS_TESS,A_DODEKATAy_YFESIS_DIGRAMMOS_EX_DODEKATA
y_YFESIS_TRIGRAMMOS_OKTO_DODEKATAy_G~IKI_DIESISy_G~IKI_YFESISy_DIASTOLI_APLI_MIKRI
y_DIASTOLI_APLI_MEG&Iy_DIASTOLI_DIPLIy_DIASTOLI_THESEOSy>IM=SIS_THESEOSy>IM=SIS_THESEOS_DISIMOU
y>IM=SIS_THESEOS_TRISIMOUy>IM=SIS_THESEOS_TETRASIMOUy>IM=SIS_+SEOSy>IM=SIS_+SEOS_DISIMOU
y>IM=SIS_+SEOS_TRISIMOUy>IM=SIS_+SEOS_TETRASIMOUy_DIGRAMMA_GGy_DIFTOGGOS_OUy>TIGMAy_+KTIKO_PA
y_+KTIKO_VOUy_+KTIKO_GAy_+KTIKO_DIy_+KTIKO_KEy_+KTIKO_ZOy_+KTIKO_NIy_K~TIMATA_NEO_MESO
y_K~TIMA_NEO_MESOy_K~TIMATA_NEO_KATOy_K~TIMA_NEO_KATOy_KLASMA_KATOy_GORG@_NEO_KATO
z1D100aMUSIC&>YMBOL>:GL;B+L:EpDOUBL;B+L:EpF:&_B+L:EpREV,S;F:&_B+L:EpDASHE^B+L:EpSHORT_B+L:E
p|FT_REPEAT>IGNpR._REPEAT>IGNqEPEAT_DOTSpD&>EGNOr_CAPOpSEGNOpCODApREPEATE^FIGURE-1yFIGURE-2yFIGURE-3
pF,MATAw_BELOWpBREATH_M+KpCAESURApBRACEtKETp@E-L:;STAFFpTWO-L:;STAFFqHREE-L:;STAFFpFOUR-L:;STAFF
qIVE-L:;STAFFpSIX-L:;STAFFtSTR:G_FRETBO+DpFOUR-STR:G_FRETBO+DpG_C|Fv_OTTAVA_&TAyTAVA_BASSApC_C|F
pF_C|Fv_OTTAVA_&TAyTAVA_BASSApDRUM_C|F-1y-2z1D129pMULTIPL;MEASUR;RESTpDOUBL;SH+PwFLATpFLAT_UPuDOWN
pNATUR&_UPxDOWNpSH+P_UPvDOWNpQU+T,_T@;SH+Py@;FLATpCOMM@_TIMEqUT_TIMEpOTTAVA_&TAwBASSA
pQU:DICESIMA_&TAyIMA_BASSApMULTI_RESTpWHOL;RESTpH&F_RESTpQU+T,_RESTpE.H_RESTpSIXTE~TH_REST
pTHIRTY-SEC@^RESTpSIXTY-FOURTH_RESTp@;HUNDRE^TW~TY-E.H_RESTpX_NOTEHEADpPLUS_NOTEHEAD
pCIRCL;X_NOTEHEADpSQU+;NOTEHEA^WHITEyTEHEA^BLACKpTRI=GL;NOTEHEA^UP_WHITEyNOTEHEA^UP_BLACK
yNOTEHEA^|FT_WHITEyNOTEHEA^|FT_BLACKyNOTEHEA^R._WHITEyNOTEHEA^R._BLACKyNOTEHEA^DOWN_WHITE
yNOTEHEA^DOWN_BLACKyNOTEHEA^UP_R._WHITEyNOTEHEA^UP_R._BLACKpMO@_NOTEHEA^WHITEyHEA^BLACK
pTRI=G|-ROUN^NOTEHEA^DOWN_WHITEyROUN^NOTEHEA^DOWN_BLACKpP+~THESIS_NOTEHEADpVOI^NOTEHEAD
pNOTEHEA^BLACKqULL_NOTEHEADpCLUST,_NOTEHEA^WHITEyOTEHEA^BLACKpBREVEpWHOL;NOTEpH&F_NOTEpQU+T,_NOTE
pE.H_NOTEpSIXTE~TH_NOTEpTHIRTY-SEC@^NOTEpSIXTY-FOURTH_NOTEp@;HUNDRE^TW~TY-E.H_NOTEpCOMB::G>TEM
y>PRECHGES=G>TEMy_TREMOLO-1y_TREMOLO-2y_TREMOLO-3pF:G,E^TREMOLO-1yTREMOLO-2yTREMOLO-3
pCOMB::G_AUGM~TATI@_DOTy_FLAG-1y_FLAG-2y_FLAG-3y_FLAG-4y_FLAG-5pBEG:_BEAMp~^BEAMpBEG:_TIEp~^TIE
pBEG:>LURp~D>LURpBEG:_PHRASEp~^PHRASEpCOMB::G_ACC~Ty>TACCATOy_T~UTOy>TACCATISSIMOy_M+CATO
y_M+CATO-STACCATOy_ACC~T-STACCATOy_LOUREp+PEGGIATO_UPyO_DOWNpCOMB::G_DOITy_RIPy_FLIPy>ME+y_B~D
y_DOUBL;T@GUEy_TRIPL;T@GUEpR:FORZ=DOpSUBITOpZpPI=OpMEZZOpFORTEpCRESC~DOpDECRESC~DOpGRAC;NOT;SLASH
y;NO>LASHpTRqURNp:V,TE^TURNpTURN>LASHuUPpORNAM~T>TROKE-1ySTROKE-2ySTROKE-3ySTROKE-4ySTROKE-5
ySTROKE-6ySTROKE-7ySTROKE-8ySTROKE-9ySTROKE-10ySTROKE-11pHAUPTSTIMMEpNEB~STIMMEp~^OF>TIMME
pDEGRE;SLASHpCOMB::G_DOWN_BOWy_UP_BOWy_H+M@ICy>NAP_PIZZICATOpPED&_M+KvUP_M+KpH&F_PED&_M+K
pGLISS=DO_UPy_DOWNpWITH_F:G,NAILSpDAMPt_&LpMAXIMApL@GApBREVISpSEMIBREVIS_WHITEyS_BLACKpM:IMAv_BLACK
pSEMIM:IMA_WHITEyA_BLACKpFUSA_WHITEuBLACKpL@GA_P,FECTA_RESTvIMP,FECTA_RESTpBREVIS_REST
pSEMIBREVIS_RESTpM:IMA_RESTpSEMIM:IMA_RESTpTEMPUS_P,FECTUM_CUM_PROLATI@;P,FECTA
yRFECTUM_CUM_PROLATI@;IMP,FECTAyRFECTUM_CUM_PROLATI@;P,FECTA_DIM:UTI@-1
wIMP,FECTUM_CUM_PROLATI@;P,FECTAyP,FECTUM_CUM_PROLATI@;IMP,FECTA
yP,FECTUM_CUM_PROLATI@;IMP,FECTA_DIM:UTI@-1yP,FECTUM_CUM_PROLATI@;IMP,FECTA_DIM:UTI@-2
yP,FECTUM_CUM_PROLATI@;IMP,FECTA_DIM:UTI@-3pCROIXpGREGORI=_C_C|Fy_F_C|FpSQU+;BpVIRGApPODATUSpCLIVIS
pSC=DICUSpCLIMACUSpTORCULUSpPORRECTUSy_F|XUSpSC=DICUS_F|XUSpTORCULUS_RESUP:USpPES>UBPUNCTIS
pKIEV=_C_C|Fw~^OF_PIECEwF:&_NOTEwRECITATIV;M+KwWHOL;NOTEwH&F_NOTEwQU+T,_NOT;STEM_DOWN
y+T,_NOT;STEM_UPwE.H_NOT;STEM_DOWNyGHTH_NOT;STEM_UPwFLAT>IGNpSORIpKOR@
z1D200aGREEK_VOC&_NOTATI@>YMBOL-1yBOL-2yBOL-3yBOL-4yBOL-5yBOL-6yBOL-7yBOL-8yBOL-9yBOL-10yBOL-11
yBOL-12yBOL-13yBOL-14yBOL-15yBOL-16yBOL-17yBOL-18yBOL-19yBOL-20yBOL-21yBOL-22yBOL-23yBOL-24yBOL-50
yBOL-51yBOL-52yBOL-53yBOL-54g:STRUM~T&_NOTATI@>YMBOL-1yI@>YMBOL-2yI@>YMBOL-4yI@>YMBOL-5yI@>YMBOL-7
yI@>YMBOL-8yI@>YMBOL-11yI@>YMBOL-12yI@>YMBOL-13yI@>YMBOL-14yI@>YMBOL-17yI@>YMBOL-18yI@>YMBOL-19
yI@>YMBOL-23yI@>YMBOL-24yI@>YMBOL-25yI@>YMBOL-26yI@>YMBOL-27yI@>YMBOL-29yI@>YMBOL-30yI@>YMBOL-32
yI@>YMBOL-36yI@>YMBOL-37yI@>YMBOL-38yI@>YMBOL-39yI@>YMBOL-40yI@>YMBOL-42yI@>YMBOL-43yI@>YMBOL-45
yI@>YMBOL-47yI@>YMBOL-48yI@>YMBOL-49yI@>YMBOL-50yI@>YMBOL-51yI@>YMBOL-52yI@>YMBOL-53yI@>YMBOL-54
aCOMB::G_GREEK_MUSIC&_TRISEMEyTETRASEMEyP~TASEMEaGREEK_MUSIC&_|IMMAz1D2E0aMAY=_NUM,&_Z,Oo@EoTWOpHREE
oFOURpIVEoSIXpEV~oE.oN:EoT~oE|V~oTWELVEpHIRTE~oFOURTE~pIFTE~oSIXTE~pEV~TE~oE.E~oN:ETE~
z1D300b@OGRAM_FOR_E+THaDIGRAM_FOR_HEAV~LY_E+THmUM=_E+THlE+THLY_HEAV~uUM=qaTETRAGRAM_FOR_C~TRE
oFULL_CIRC|oMIREDoB+RI,oKEEP:G>M&LoC@TR+IETYoASC~ToOPPOSITI@oBR=CH:G_OUToDEFECTIV~ESS_OR_DISTORTI@
pIV,G~CEoYOUTHFULNESSo:CREASEoP~ETRATI@oREACHoC@TACToHOLD:G_BACKoWAIT:GoFOLLOW:GoADV=CEoRE|ASE
qSIST=CEoEASEoJOYoC@T~TI@o~DEAVOURoDUTIESoCH=GEoDECISIV~ESSoBOL^RESOLUTI@oPACK:Go|GI@oCLOS~ESS
oK:SHIPoGATH,:GoSTR~GTHoPURITYoFULLNESSoRESID~CEoLAW_OR_MODELoRESP@SEoGO:G_TO_MEETo~COUNT,SoSTOVE
oGREATNESSo~L+GEM~ToPATT,NoRITU&oFL.oVASTNESS_OR_WAST:GoC@ST=CYoMEASUREoET,NITYoUNITYoDIM:ISHM~T
oCLOSE^MOUTHoGU+DEDNESSpATH,:G_:oMASS:GoACCUMULATI@oEMBELLISHM~ToDOUBToWATCHoS:K:Go:N,oDEP+TURE
p+K~:GpIMM:GoEXHAUSTI@oSEV,=CEpTOPPAGEoH+DNESSoCOMP|TI@pLOSUREoFAILUREoAGGRAVATI@oCOMPLI=CE
o@_TH;V,GEoDIFFICULTIESoLABOUR:GoFOST,:Gz1D360aCOUNT:G_RO^UNIT_DIGIT_@EyTWOyTHREEyFOURyFIVEySIXySEV~
yE.yN:EnT~S_DIGIT_@EyTWOyTHREEyFOURyFIVEySIXySEV~yE.yN:EaIDEOGRAPHIC_T&LY_M+K_@ExTWOyHREExFOURyIVE
aT&LY_M+K_@ElFIVEz1D400aMATHEMATIC&_BOL^%L_AyL_ByL_CyL_DyL_EyL_FyL_GyL_HyL_IyL_JyL_KyL_LyL_MyL_NyL_O
yL_PyL_QyL_RyL>yL_TyL_UyL_VyL_WyL_XyL_YyL_ZsSM&L_AyByCyDyEyFyGyHyIyJyKyLyMyNyOyPyQyRySyTyUyVyWyXyYyZ
nIT&IC_%L_AyT&_ByT&_CyT&_DyT&_EyT&_FyT&_GyT&_HyT&_IyT&_JyT&_KyT&_LyT&_MyT&_NyT&_OyT&_PyT&_QyT&_RyT&>
yT&_TyT&_UyT&_VyT&_WyT&_XyT&_YyT&_ZuSM&L_AyL_ByL_CyL_DyL_EyL_FyL_Gz1D456yL_IyL_JyL_KyL_LyL_MyL_NyL_O
yL_PyL_QyL_RyL>yL_TyL_UyL_VyL_WyL_XyL_YyL_ZnBOL^IT&IC_%L_Ay_%L_By_%L_Cy_%L_Dy_%L_Ey_%L_Fy_%L_Gy_%L_H
y_%L_Iy_%L_Jy_%L_Ky_%L_Ly_%L_My_%L_Ny_%L_Oy_%L_Py_%L_Qy_%L_Ry_%L>y_%L_Ty_%L_Uy_%L_Vy_%L_Wy_%L_X
y_%L_Yy_%L_Zy>M&L_Ay>M&L_By>M&L_Cy>M&L_Dy>M&L_Ey>M&L_Fy>M&L_Gy>M&L_Hy>M&L_Iy>M&L_Jy>M&L_Ky>M&L_L
y>M&L_My>M&L_Ny>M&L_Oy>M&L_Py>M&L_Qy>M&L_Ry>M&L>y>M&L_Ty>M&L_Uy>M&L_Vy>M&L_Wy>M&L_Xy>M&L_Yy>M&L_Z
nSCRIPT_%L_Az1D49EyT&_CyT&_Dz1D4A2yT&_Gz1D4A5yT&_JyT&_Kz1D4A9yT&_NyT&_OyT&_PyT&_Qz1D4AEyT&>yT&_T
yT&_UyT&_VyT&_WyT&_XyT&_YyT&_ZuSM&L_AyL_ByL_CyL_Dz1D4BByL_Fz1D4BDyL_HyL_IyL_JyL_KyL_LyL_MyL_N
z1D4C5yL_PyL_QyL_RyL>yL_TyL_UyL_VyL_WyL_XyL_YyL_ZnBOLD>CRIPT_%L_Ay_%L_By_%L_Cy_%L_Dy_%L_Ey_%L_F
y_%L_Gy_%L_Hy_%L_Iy_%L_Jy_%L_Ky_%L_Ly_%L_My_%L_Ny_%L_Oy_%L_Py_%L_Qy_%L_Ry_%L>y_%L_Ty_%L_Uy_%L_V
y_%L_Wy_%L_Xy_%L_Yy_%L_Zy>M&L_Ay>M&L_By>M&L_Cy>M&L_Dy>M&L_Ey>M&L_Fy>M&L_Gy>M&L_Hy>M&L_Iy>M&L_J
y>M&L_Ky>M&L_Ly>M&L_My>M&L_Ny>M&L_Oy>M&L_Py>M&L_Qy>M&L_Ry>M&L>y>M&L_Ty>M&L_Uy>M&L_Vy>M&L_Wy>M&L_X
y>M&L_Yy>M&L_ZnFRAKTUR_%L_AyIT&_Bz1D507yIT&_DyIT&_EyIT&_FyIT&_Gz1D50DyIT&_JyIT&_KyIT&_LyIT&_MyIT&_N
yIT&_OyIT&_PyIT&_Qz1D516yIT&>yIT&_TyIT&_UyIT&_VyIT&_WyIT&_XyIT&_Yz1D51EvSM&L_AyLL_ByLL_CyLL_DyLL_E
yLL_FyLL_GyLL_HyLL_IyLL_JyLL_KyLL_LyLL_MyLL_NyLL_OyLL_PyLL_QyLL_RyLL>yLL_TyLL_UyLL_VyLL_WyLL_XyLL_Y
yLL_ZnDOUB|-STRUCK_%L_AyCK_%L_Bz1D53ByCK_%L_DyCK_%L_EyCK_%L_FyCK_%L_Gz1D540yCK_%L_IyCK_%L_JyCK_%L_K
yCK_%L_LyCK_%L_Mz1D546yCK_%L_Oz1D54AyCK_%L>yCK_%L_TyCK_%L_UyCK_%L_VyCK_%L_WyCK_%L_XyCK_%L_Y
z1D552yCK>M&L_AyCK>M&L_ByCK>M&L_CyCK>M&L_DyCK>M&L_EyCK>M&L_FyCK>M&L_GyCK>M&L_HyCK>M&L_IyCK>M&L_J
yCK>M&L_KyCK>M&L_LyCK>M&L_MyCK>M&L_NyCK>M&L_OyCK>M&L_PyCK>M&L_QyCK>M&L_RyCK>M&L>yCK>M&L_TyCK>M&L_U
yCK>M&L_VyCK>M&L_WyCK>M&L_XyCK>M&L_YyCK>M&L_ZnBOL^FRAKTUR_%L_AyR_%L_ByR_%L_CyR_%L_DyR_%L_EyR_%L_F
yR_%L_GyR_%L_HyR_%L_IyR_%L_JyR_%L_KyR_%L_LyR_%L_MyR_%L_NyR_%L_OyR_%L_PyR_%L_QyR_%L_RyR_%L>yR_%L_T
yR_%L_UyR_%L_VyR_%L_WyR_%L_XyR_%L_YyR_%L_ZyR>M&L_AyR>M&L_ByR>M&L_CyR>M&L_DyR>M&L_EyR>M&L_FyR>M&L_G
yR>M&L_HyR>M&L_IyR>M&L_JyR>M&L_KyR>M&L_LyR>M&L_MyR>M&L_NyR>M&L_OyR>M&L_PyR>M&L_QyR>M&L_RyR>M&L>
yR>M&L_TyR>M&L_UyR>M&L_VyR>M&L_WyR>M&L_XyR>M&L_YyR>M&L_ZnS=S-S,IF_%L_Ay%L_By%L_Cy%L_Dy%L_Ey%L_Fy%L_G
y%L_Hy%L_Iy%L_Jy%L_Ky%L_Ly%L_My%L_Ny%L_Oy%L_Py%L_Qy%L_Ry%L>y%L_Ty%L_Uy%L_Vy%L_Wy%L_Xy%L_Yy%L_Z
ySM&L_AySM&L_BySM&L_CySM&L_DySM&L_EySM&L_FySM&L_GySM&L_HySM&L_IySM&L_JySM&L_KySM&L_LySM&L_MySM&L_N
ySM&L_OySM&L_PySM&L_QySM&L_RySM&L>ySM&L_TySM&L_UySM&L_VySM&L_WySM&L_XySM&L_YySM&L_ZyBOL^%L_A
yBOL^%L_ByBOL^%L_CyBOL^%L_DyBOL^%L_EyBOL^%L_FyBOL^%L_GyBOL^%L_HyBOL^%L_IyBOL^%L_JyBOL^%L_KyBOL^%L_L
yBOL^%L_MyBOL^%L_NyBOL^%L_OyBOL^%L_PyBOL^%L_QyBOL^%L_RyBOL^%L>yBOL^%L_TyBOL^%L_UyBOL^%L_VyBOL^%L_W
yBOL^%L_XyBOL^%L_YyBOL^%L_ZyBOLD>M&L_AyBOLD>M&L_ByBOLD>M&L_CyBOLD>M&L_DyBOLD>M&L_EyBOLD>M&L_F
yBOLD>M&L_GyBOLD>M&L_HyBOLD>M&L_IyBOLD>M&L_JyBOLD>M&L_KyBOLD>M&L_LyBOLD>M&L_MyBOLD>M&L_NyBOLD>M&L_O
yBOLD>M&L_PyBOLD>M&L_QyBOLD>M&L_RyBOLD>M&L>yBOLD>M&L_TyBOLD>M&L_UyBOLD>M&L_VyBOLD>M&L_WyBOLD>M&L_X
yBOLD>M&L_YyBOLD>M&L_ZyIT&IC_%L_AyIT&IC_%L_ByIT&IC_%L_CyIT&IC_%L_DyIT&IC_%L_EyIT&IC_%L_FyIT&IC_%L_G
yIT&IC_%L_HyIT&IC_%L_IyIT&IC_%L_JyIT&IC_%L_KyIT&IC_%L_LyIT&IC_%L_MyIT&IC_%L_NyIT&IC_%L_OyIT&IC_%L_P
yIT&IC_%L_QyIT&IC_%L_RyIT&IC_%L>yIT&IC_%L_TyIT&IC_%L_UyIT&IC_%L_VyIT&IC_%L_WyIT&IC_%L_XyIT&IC_%L_Y
yIT&IC_%L_ZyIT&IC>M&L_AyIT&IC>M&L_ByIT&IC>M&L_CyIT&IC>M&L_DyIT&IC>M&L_EyIT&IC>M&L_FyIT&IC>M&L_G
yIT&IC>M&L_HyIT&IC>M&L_IyIT&IC>M&L_JyIT&IC>M&L_KyIT&IC>M&L_LyIT&IC>M&L_MyIT&IC>M&L_NyIT&IC>M&L_O
yIT&IC>M&L_PyIT&IC>M&L_QyIT&IC>M&L_RyIT&IC>M&L>yIT&IC>M&L_TyIT&IC>M&L_UyIT&IC>M&L_VyIT&IC>M&L_W
yIT&IC>M&L_XyIT&IC>M&L_YyIT&IC>M&L_ZyBOL^IT&IC_%L_AyBOL^IT&IC_%L_ByBOL^IT&IC_%L_CyBOL^IT&IC_%L_D
yBOL^IT&IC_%L_EyBOL^IT&IC_%L_FyBOL^IT&IC_%L_GyBOL^IT&IC_%L_HyBOL^IT&IC_%L_IyBOL^IT&IC_%L_J
yBOL^IT&IC_%L_KyBOL^IT&IC_%L_LyBOL^IT&IC_%L_MyBOL^IT&IC_%L_NyBOL^IT&IC_%L_OyBOL^IT&IC_%L_P
yBOL^IT&IC_%L_QyBOL^IT&IC_%L_RyBOL^IT&IC_%L>yBOL^IT&IC_%L_TyBOL^IT&IC_%L_UyBOL^IT&IC_%L_V
yBOL^IT&IC_%L_WyBOL^IT&IC_%L_XyBOL^IT&IC_%L_YyBOL^IT&IC_%L_ZyBOL^IT&IC>M&L_AyBOL^IT&IC>M&L_B
yBOL^IT&IC>M&L_CyBOL^IT&IC>M&L_DyBOL^IT&IC>M&L_EyBOL^IT&IC>M&L_FyBOL^IT&IC>M&L_GyBOL^IT&IC>M&L_H
yBOL^IT&IC>M&L_IyBOL^IT&IC>M&L_JyBOL^IT&IC>M&L_KyBOL^IT&IC>M&L_LyBOL^IT&IC>M&L_MyBOL^IT&IC>M&L_N
yBOL^IT&IC>M&L_OyBOL^IT&IC>M&L_PyBOL^IT&IC>M&L_QyBOL^IT&IC>M&L_RyBOL^IT&IC>M&L>yBOL^IT&IC>M&L_T
yBOL^IT&IC>M&L_UyBOL^IT&IC>M&L_VyBOL^IT&IC>M&L_WyBOL^IT&IC>M&L_XyBOL^IT&IC>M&L_YyBOL^IT&IC>M&L_Z
nM@OSPAC;%L_AyAPIT&_ByAPIT&_CyAPIT&_DyAPIT&_EyAPIT&_FyAPIT&_GyAPIT&_HyAPIT&_IyAPIT&_JyAPIT&_K
yAPIT&_LyAPIT&_MyAPIT&_NyAPIT&_OyAPIT&_PyAPIT&_QyAPIT&_RyAPIT&>yAPIT&_TyAPIT&_UyAPIT&_VyAPIT&_W
yAPIT&_XyAPIT&_YyAPIT&_ZxSM&L_AyM&L_ByM&L_CyM&L_DyM&L_EyM&L_FyM&L_GyM&L_HyM&L_IyM&L_JyM&L_KyM&L_L
yM&L_MyM&L_NyM&L_OyM&L_PyM&L_QyM&L_RyM&L>yM&L_TyM&L_UyM&L_VyM&L_WyM&L_XyM&L_YyM&L_Z
nIT&IC>M&L_DOT|SS_IyL_DOT|SS_Jz1D6A8nBOL^%L_&PHAyL_BETAyL_GAMMAyL_DELTAyL_EPSIL@yL_ZETAyL_ETA
yL_THETAyL_IOTAyL_KAPPAyL_LAMDAyL_MUyL_NUyL_XIyL_OMICR@yL_PIyL_RHOyL_THETA>YMBOLyL>IGMAyL_TAU
yL_UPSIL@yL_PHIyL_CHIyL_PSIyL_OMEGAsNABLAsSM&L_&PHAyBETAyGAMMAyDELTAyEPSIL@yZETAyETAyTHETAyIOTA
yKAPPAyLAMDAyMUyNUyXIyOMICR@yPIyRHOyF:&>IGMAySIGMAyTAUyUPSIL@yPHIyCHIyPSIyOMEGAsP+TI&_DIFF,~TI&
sEPSIL@>YMBOLsTHETA>YMBOLsKAPPA>YMBOLsPHI>YMBOLsRHO>YMBOLsPI>YMBOLnIT&IC_%L_&PHAyT&_BETAyT&_GAMMA
yT&_DELTAyT&_EPSIL@yT&_ZETAyT&_ETAyT&_THETAyT&_IOTAyT&_KAPPAyT&_LAMDAyT&_MUyT&_NUyT&_XIyT&_OMICR@
yT&_PIyT&_RHOyT&_THETA>YMBOLyT&>IGMAyT&_TAUyT&_UPSIL@yT&_PHIyT&_CHIyT&_PSIyT&_OMEGAuNABLAuSM&L_&PHA
yL_BETAyL_GAMMAyL_DELTAyL_EPSIL@yL_ZETAyL_ETAyL_THETAyL_IOTAyL_KAPPAyL_LAMDAyL_MUyL_NUyL_XIyL_OMICR@
yL_PIyL_RHOyL_F:&>IGMAyL>IGMAyL_TAUyL_UPSIL@yL_PHIyL_CHIyL_PSIyL_OMEGAuP+TI&_DIFF,~TI&uEPSIL@>YMBOL
uTHETA>YMBOLuKAPPA>YMBOLuPHI>YMBOLuRHO>YMBOLuPI>YMBOLnBOL^IT&IC_%L_&PHAy_%L_BETAy_%L_GAMMAy_%L_DELTA
y_%L_EPSIL@y_%L_ZETAy_%L_ETAy_%L_THETAy_%L_IOTAy_%L_KAPPAy_%L_LAMDAy_%L_MUy_%L_NUy_%L_XIy_%L_OMICR@
y_%L_PIy_%L_RHOy_%L_THETA>YMBOLy_%L>IGMAy_%L_TAUy_%L_UPSIL@y_%L_PHIy_%L_CHIy_%L_PSIy_%L_OMEGAy_NABLA
y>M&L_&PHAy>M&L_BETAy>M&L_GAMMAy>M&L_DELTAy>M&L_EPSIL@y>M&L_ZETAy>M&L_ETAy>M&L_THETAy>M&L_IOTA
y>M&L_KAPPAy>M&L_LAMDAy>M&L_MUy>M&L_NUy>M&L_XIy>M&L_OMICR@y>M&L_PIy>M&L_RHOy>M&L_F:&>IGMAy>M&L>IGMA
y>M&L_TAUy>M&L_UPSIL@y>M&L_PHIy>M&L_CHIy>M&L_PSIy>M&L_OMEGAy_P+TI&_DIFF,~TI&y_EPSIL@>YMBOL
y_THETA>YMBOLy_KAPPA>YMBOLy_PHI>YMBOLy_RHO>YMBOLy_PI>YMBOLnS=S-S,IF_BOL^%L_&PHAyBOL^%L_BETA
yBOL^%L_GAMMAyBOL^%L_DELTAyBOL^%L_EPSIL@yBOL^%L_ZETAyBOL^%L_ETAyBOL^%L_THETAyBOL^%L_IOTA
yBOL^%L_KAPPAyBOL^%L_LAMDAyBOL^%L_MUyBOL^%L_NUyBOL^%L_XIyBOL^%L_OMICR@yBOL^%L_PIyBOL^%L_RHO
yBOL^%L_THETA>YMBOLyBOL^%L>IGMAyBOL^%L_TAUyBOL^%L_UPSIL@yBOL^%L_PHIyBOL^%L_CHIyBOL^%L_PSI
yBOL^%L_OMEGAyBOL^NABLAyBOLD>M&L_&PHAyBOLD>M&L_BETAyBOLD>M&L_GAMMAyBOLD>M&L_DELTAyBOLD>M&L_EPSIL@
yBOLD>M&L_ZETAyBOLD>M&L_ETAyBOLD>M&L_THETAyBOLD>M&L_IOTAyBOLD>M&L_KAPPAyBOLD>M&L_LAMDAyBOLD>M&L_MU
yBOLD>M&L_NUyBOLD>M&L_XIyBOLD>M&L_OMICR@yBOLD>M&L_PIyBOLD>M&L_RHOyBOLD>M&L_F:&>IGMAyBOLD>M&L>IGMA
yBOLD>M&L_TAUyBOLD>M&L_UPSIL@yBOLD>M&L_PHIyBOLD>M&L_CHIyBOLD>M&L_PSIyBOLD>M&L_OMEGA
yBOL^P+TI&_DIFF,~TI&yBOL^EPSIL@>YMBOLyBOL^THETA>YMBOLyBOL^KAPPA>YMBOLyBOL^PHI>YMBOLyBOL^RHO>YMBOL
yBOL^PI>YMBOLyBOL^IT&IC_%L_&PHAyBOL^IT&IC_%L_BETAyBOL^IT&IC_%L_GAMMAyBOL^IT&IC_%L_DELTA
yBOL^IT&IC_%L_EPSIL@yBOL^IT&IC_%L_ZETAyBOL^IT&IC_%L_ETAyBOL^IT&IC_%L_THETAyBOL^IT&IC_%L_IOTA
yBOL^IT&IC_%L_KAPPAyBOL^IT&IC_%L_LAMDAyBOL^IT&IC_%L_MUyBOL^IT&IC_%L_NUyBOL^IT&IC_%L_XI
yBOL^IT&IC_%L_OMICR@yBOL^IT&IC_%L_PIyBOL^IT&IC_%L_RHOyBOL^IT&IC_%L_THETA>YMBOLyBOL^IT&IC_%L>IGMA
yBOL^IT&IC_%L_TAUyBOL^IT&IC_%L_UPSIL@yBOL^IT&IC_%L_PHIyBOL^IT&IC_%L_CHIyBOL^IT&IC_%L_PSI
yBOL^IT&IC_%L_OMEGAyBOL^IT&IC_NABLAyBOL^IT&IC>M&L_&PHAyBOL^IT&IC>M&L_BETAyBOL^IT&IC>M&L_GAMMA
yBOL^IT&IC>M&L_DELTAyBOL^IT&IC>M&L_EPSIL@yBOL^IT&IC>M&L_ZETAyBOL^IT&IC>M&L_ETAyBOL^IT&IC>M&L_THETA
yBOL^IT&IC>M&L_IOTAyBOL^IT&IC>M&L_KAPPAyBOL^IT&IC>M&L_LAMDAyBOL^IT&IC>M&L_MUyBOL^IT&IC>M&L_NU
yBOL^IT&IC>M&L_XIyBOL^IT&IC>M&L_OMICR@yBOL^IT&IC>M&L_PIyBOL^IT&IC>M&L_RHOyBOL^IT&IC>M&L_F:&>IGMA
yBOL^IT&IC>M&L>IGMAyBOL^IT&IC>M&L_TAUyBOL^IT&IC>M&L_UPSIL@yBOL^IT&IC>M&L_PHIyBOL^IT&IC>M&L_CHI
yBOL^IT&IC>M&L_PSIyBOL^IT&IC>M&L_OMEGAyBOL^IT&IC_P+TI&_DIFF,~TI&yBOL^IT&IC_EPSIL@>YMBOL
yBOL^IT&IC_THETA>YMBOLyBOL^IT&IC_KAPPA>YMBOLyBOL^IT&IC_PHI>YMBOLyBOL^IT&IC_RHO>YMBOL
yBOL^IT&IC_PI>YMBOLnBOL^%L_DIGAMMAsSM&L_DIGAMMAz1D7CEsDIGIT_Z,Oy@EyTWOyTHREEyFOURyFIVEySIXySEV~yE.
yN:EnDOUB|-STRUCK_DIGIT_Z,OyCK_DIGIT_@EyCK_DIGIT_TWOyCK_DIGIT_THREEyCK_DIGIT_FOURyCK_DIGIT_FIVE
yCK_DIGIT>IXyCK_DIGIT>EV~yCK_DIGIT_E.yCK_DIGIT_N:EnS=S-S,IF_DIGIT_Z,OyDIGIT_@EyDIGIT_TWOyDIGIT_THREE
yDIGIT_FOURyDIGIT_FIVEyDIGIT>IXyDIGIT>EV~yDIGIT_E.yDIGIT_N:EyBOL^DIGIT_Z,OyBOL^DIGIT_@E
yBOL^DIGIT_TWOyBOL^DIGIT_THREEyBOL^DIGIT_FOURyBOL^DIGIT_FIVEyBOL^DIGIT>IXyBOL^DIGIT>EV~yBOL^DIGIT_E.
yBOL^DIGIT_N:EnM@OSPAC;DIGIT_Z,OyIGIT_@EyIGIT_TWOyIGIT_THREEyIGIT_FOURyIGIT_FIVEyIGIT>IXyIGIT>EV~
yIGIT_E.yIGIT_N:EaSIGNWRIT:G_H=D-FIST_:DEXrCIRCL;:DEXsUP_:DEXrOV&_:DEXrH:G;:DEXr=GL;:DEX
rFIST_:DEX_B~TrCIRCL;:DEX_B~TrFIST_THUMB_UND,_:DEX_B~Tw:DEX_RAISE^KNUCK|yDEX_CUPPEDyDEX_H:GED
yDEX_H:GE^LOWrCIRCL;:DEX_H:GErFIST_:DEX_MIDD|rCIRCL;:DEX_MIDD|rFIST_:DEX_MIDDL;B~T
yDEX_MIDDL;RAISE^KNUCK|SyDEX_MIDDL;H:GEDyDEX_UP_MIDDL;H:GEDyDEX_H:GE^MIDDL;UPyDEX_MIDDL;C@JO:ED
yDEX_MIDDL;C@JO:E^:DEX_B~TyDEX_MIDDL;C@JO:E^MIDDL;B~TyDEX_MIDDL;C@JO:E^CUPPEDyDEX_MIDDL;C@JO:E^H:GED
yDEX_MIDDL;CROSSEDrCIRCL;:DEX_MIDDL;CROSSEDrFIST_MIDDL;B~T_OV,_:DEXw:DEX_B~T_OV,_MIDD|
yDEX_MIDDL;THUMBrCIRCL;:DEX_MIDDL;THUMBrFIST_:DEX_MIDDL;STRA._THUMB_B~TyDEX_MIDDL;B~T_THUMB>TRA.
yDEX_MIDDL;THUMB_B~TyDEX_MIDDL;H:GED>PREA^THUMB>IDEyDEX_UP_MIDDL;H:GE^THUMB>IDE
yDEX_UP_MIDDL;H:GE^THUMB_C@JO:EDyDEX_H:GE^MIDDL;UP_THUMB>IDEyDEX_MIDDL;UP>PREA^THUMB_FORW+D
yDEX_MIDDL;THUMB_CUPPEDyDEX_MIDDL;THUMB_CIRC|DyDEX_MIDDL;THUMB_HOOKEDyDEX_MIDDL;THUMB_H:GED
wTHUMB_BETWE~_:DEX_MIDDL;STRA.w:DEX_MIDDL;C@JO:E^THUMB>IDEyDEX_MIDDL;C@JO:E^THUMB>ID;C@JO:ED
yDEX_MIDDL;C@JO:E^THUMB>ID;B~TwMIDDL;THUMB_HOOKE^:DEX_UPw:DEX_THUMB_HOOKE^MIDDL;UP
yDEX_MIDDL;C@JO:E^H:GE^THUMB>IDEyDEX_MIDDL;CROSSE^THUMB>IDEyDEX_MIDDL;C@JO:E^THUMB_FORW+D
yDEX_MIDDL;C@JO:E^CUPPE^THUMB_FORW+DwMIDDL;THUMB_CUPPE^:DEX_UPw:DEX_THUMB_CUPPE^MIDDL;UP
wMIDDL;THUMB_CIRC|^:DEX_UPyDDL;THUMB_CIRC|^:DEX_H:GEDw:DEX_THUMB_=G|^OUT_MIDDL;UP
yDEX_THUMB_=G|^:_MIDDL;UPyDEX_THUMB_CIRC|^MIDDL;UPyDEX_MIDDL;THUMB_C@JO:E^H:GED
yDEX_MIDDL;THUMB_=G|^OUTyDEX_MIDDL;THUMB_=G|DwMIDDL;THUMB_=G|^OUT_:DEX_UP
yDDL;THUMB_=G|^OUT_:DEX_CROSSEDyDDL;THUMB_=G|^:DEX_UPw:DEX_THUMB_HOOKE^MIDDL;H:GEDsLAT_FOUR_F:G,S
yUR_F:G,S_B~TyUR_F:G,S_H:GEDyUR_F:G,S_C@JO:EDyUR_F:G,S_C@JO:ED>PLITrCLAW_FOUR_F:G,S_C@JO:ED
rFIST_FOUR_F:G,S_C@JO:E^B~TrH:G;FOUR_F:G,S_C@JO:EDrFLAT_FIV;F:G,S>PREADwHEEL_FIV;F:G,S>PREAD
wFIV;F:G,S>PREA^FOUR_B~TwHEEL_FIV;F:G,S>PREA^FOUR_B~TwFIV;F:G,S>PREA^B~TwHEEL_FIV;F:G,S>PREA^B~T
wFIV;F:G,S>PREA^THUMB_FORW+DrCUP_FIV;F:G,S>PREADy;F:G,S>PREA^OP~rH:G;FIV;F:G,S>PREA^OP~
rOV&_FIV;F:G,S>PREADrFLAT_FIV;F:G,S>PREA^H:GEDyV;F:G,S>PREA^H:GE^THUMB>IDE
yV;F:G,S>PREA^H:GE^NO_THUMBvv_BETWE~_P&M_FAC:GSwHEELwTHUMB>IDEwHEEL_THUMB>IDEwTHUMB_B~TyUMB_FORW+D
wSPLIT_:DEX_THUMB>IDEyLIT_C~TREyLIT_C~TR;THUMB>IDEyLIT_C~TR;THUMB>ID;B~TyLIT_LITT|rCLAWv_THUMB>IDE
wNO_THUMBwTHUMB_FORW+DrHOOK_CURLICUEvrCUP_OP~uu_OP~_THUMB>IDEvTHUMB>IDEvOP~_NO_THUMBvNO_THUMB
vOP~_THUMB_FORW+DvTHUMB_FORW+DtRLICU;OP~yEsIRC|rOV&v_THUMB>IDEwNO_THUMBwTHUMB_FORW+DrH:G;OP~
yP~_THUMB_FORW+Dww>M&LxOP~_THUMB>IDExTHUMB>IDExOP~_NO_THUMBxNO_THUMBxTHUMB>ID;TOUCH:G_:DEX
yHUMB_BETWE~_MIDDL;R:Gr=G|rFIST_:DEX_MIDDL;R:GrCIRCL;:DEX_MIDDL;R:GrH:G;:DEX_MIDDL;R:G
r=GL;:DEX_MIDDL;R:GrH:G;LITT|rFIST_:DEX_MIDDL;R:G_B~TyDEX_MIDDL;R:G_C@JO:ED
rH:G;:DEX_MIDDL;R:G_C@JO:EDrFIST_LITTL;DOWNyTTL;DOWN_RIPPL;STRA.yTTL;DOWN_RIPPL;CURVED
yTTL;DOWN_OTH,S_CIRC|DyTTL;UPwTHUMB_UND,_LITTL;UPrCIRCL;LITTL;UPrOV&_LITTL;UPr=GL;LITTL;UP
rFIST_LITTL;RAISE^KNUCK|yTTL;B~TyTTL;TOUCHES_THUMByTTL;THUMBrH:G;LITTL;THUMBrFIST_LITTL;:DEX_THUMB
rH:G;LITTL;:DEX_THUMBr=GL;LITTL;:DEX_THUMB_:DEX_THUMB_OUTyITTL;:DEX_THUMB_:DEX_THUMBrFIST_LITTL;:DEX
rCIRCL;LITTL;:DEXrH:G;LITTL;:DEXr=GL;LITTL;:DEXrFIST_:DEX_MIDDL;LITT|rCIRCL;:DEX_MIDDL;LITT|
rH:G;:DEX_MIDDL;LITT|xR:Gr=GL;:DEX_MIDDL;LITT|rFIST_:DEX_MIDDL;CROSS_LITT|
rCIRCL;:DEX_MIDDL;CROSS_LITT|rFIST_R:G_DOWNrH:G;R:G_DOWN_:DEX_THUMB_HOOK_MIDD|
r=GL;R:G_DOWN_MIDDL;THUMB_:DEX_CROSSrFIST_R:G_UPyNG_RAISE^KNUCK|yNG_LITT|rCIRCL;R:G_LITT|
rOV&_R:G_LITT|r=GL;R:G_LITT|rFIST_R:G_MIDD|yNG_MIDDL;C@JO:EDyNG_MIDDL;RAISE^KNUCK|SyNG_:DEXyNG_THUMB
rHOOK_R:G_THUMBrFIST_:DEX_R:G_LITT|rCIRCL;:DEX_R:G_LITT|sURLICU;:DEX_R:G_LITTL;@
rHOOK_:DEX_R:G_LITTL;OUTyDEX_R:G_LITTL;:yDEX_R:G_LITTL;UND,rCUP_:DEX_R:G_LITT|rH:G;:DEX_R:G_LITT|
r=GL;:DEX_R:G_LITTL;OUTyNDEX_R:G_LITT|rFIST_MIDDL;DOWNrH:G;MIDD|rFIST_MIDDL;UPrCIRCL;MIDDL;UP
rFIST_MIDDL;RAISE^KNUCK|yDDL;UP_THUMB>IDErHOOK_MIDDL;THUMBrFIST_MIDDL;THUMB_LITT|yDDL;LITT|
yDDL;R:G_LITT|rCIRCL;MIDDL;R:G_LITT|sURLICU;MIDDL;R:G_LITTL;@tP_MIDDL;R:G_LITT|rH:G;MIDDL;R:G_LITT|
r=GL;MIDDL;R:G_LITTL;OUTyIDDL;R:G_LITTL;:yIDDL;R:G_LITT|rCIRCL;MIDDL;R:G_LITTL;B~T
sLAW_MIDDL;R:G_LITTL;C@JO:EDyDDL;R:G_LITTL;C@JO:ED>IDErHOOK_MIDDL;R:G_LITTL;C@JO:E^OUT
yDDL;R:G_LITTL;C@JO:E^:yDDL;R:G_LITTL;C@JO:EDs:G;:DEX_H:GEDrFIST_:DEX_THUMB>IDErH:G;:DEX_THUMB>IDE
rFIST_:DEX_THUMB>ID;THUMB_DIAG@&yDEX_THUMB>ID;THUMB_C@JO:EDyDEX_THUMB>ID;THUMB_B~T
yDEX_THUMB>ID;:DEX_B~TyDEX_THUMB>ID;BOTH_B~TyDEX_THUMB>ID;:DEX_H:GEyDEX_THUMB_FORW+^:DEX>TRA.
yDEX_THUMB_FORW+^:DEX_B~TyDEX_THUMB_HOOKyDEX_THUMB_CURLICUEyDEX_THUMB_CURV;THUMB_:SIDE
rCLAW_:DEX_THUMB_CURV;THUMB_:SIDErFIST_:DEX_THUMB_CURV;THUMB_UND,yDEX_THUMB_CIRC|rCUP_:DEX_THUMB
yEX_THUMB_OP~rH:G;:DEX_THUMB_OP~yNDEX_THUMB_L+GEyNDEX_THUMByNDEX_THUMB>M&Lr=GL;:DEX_THUMB_OUT
yNDEX_THUMB_:yNDEX_THUMBrFIST_THUMByUMB_HEELyUMB>ID;DIAG@&yUMB>ID;C@JO:EDyUMB>ID;B~TyUMB_FORW+D
yUMB_BETWE~_:DEX_MIDD|yUMB_BETWE~_MIDDL;R:GyUMB_BETWE~_R:G_LITT|yUMB_UND,_TWO_F:G,S
yUMB_OV,_TWO_F:G,SyUMB_UND,_THRE;F:G,SyUMB_UND,_FOUR_F:G,SyUMB_OV,_FOUR_RAISE^KNUCK|Svv_HEEL
mTOUCH>:G|sMULTIP|sBETWE~mGRASP>:G|sMULTIP|sBETWE~mSTRIK;S:G|tMULTIP|tBETWE~mBRUSH>:G|sMULTIP|
sBETWE~mRUB>:G|qMULTIP|qBETWE~mSURFAC;SYMBOLSuBETWE~nQUEEZ;L+G;S:G|uSM&L>:G|uL+G;MULTIP|
uSM&L_MULTIP|vEQU~TI&mFLICK_L+G;S:G|sSM&L>:G|sL+G;MULTIP|sSM&L_MULTIP|tEQU~TI&mSQUEEZ;FLICK_&T,NAT:G
mMOVEM~T-H:G;UP_DOWN_L+GEyG;UP_DOWN>M&LyG;UP>EQU~TI&yG;DOWN>EQU~TI&yG;UP_DOWN_&T,NAT:G_L+GE
yG;UP_DOWN_&T,NAT:G>M&LyG;SID;TO>ID;SCISSORSvW&LPL=;F:G,_C@TACTvFLOORPL=;F:G,_C@TACT
vW&LPL=;S:GL;STRA.>M&LyLPL=;S:GL;STRA._MEDIUMyLPL=;S:GL;STRA._L+GEyLPL=;S:GL;STRA._L+GEST
yLPL=;S:GL;WRIST_F|XyLPL=;DOUBL;STRA.yLPL=;DOUBL;WRIST_F|XyLPL=;DOUBL;&T,NAT:G
yLPL=;DOUBL;&T,NAT:G_WRIST_F|XyLPL=;CROSSyLPL=;TRIPL;STRA._MOVEM~TyLPL=;TRIPL;WRIST_F|X
yLPL=;TRIPL;&T,NAT:GyLPL=;TRIPL;&T,NAT:G_WRIST_F|XyLPL=;B~D>M&LyLPL=;B~^MEDIUMyLPL=;B~^L+GE
yLPL=;CORN,>M&LyLPL=;CORN,_MEDIUMyLPL=;CORN,_L+GEyLPL=;CORN,_ROTATI@yLPL=;CHECK>M&L
yLPL=;CHECK_MEDIUMyLPL=;CHECK_L+GEyLPL=;BOX>M&LyLPL=;BOX_MEDIUMyLPL=;BOX_L+GEyLPL=;ZIGZAG>M&L
yLPL=;ZIGZAG_MEDIUMyLPL=;ZIGZAG_L+GEyLPL=;PEAKS>M&LyLPL=;PEAKS_MEDIUMyLPL=;PEAKS_L+GE
mTRAVEL-W&LPL=;ROTATI@-W&LPL=;S:G|yL=;ROTATI@-W&LPL=;DOUB|yL=;ROTATI@-W&LPL=;&T,NAT:G
yL=;ROTATI@-FLOORPL=;S:G|yL=;ROTATI@-FLOORPL=;DOUB|yL=;ROTATI@-FLOORPL=;&T,NAT:GyL=;SHAK:G
yL=;+M>PIR&>:G|yL=;+M>PIR&_DOUB|yL=;+M>PIR&_TRIP|mMOVEM~T-DIAG@&_AWAY>M&LyG@&_AWAY_MEDIUM
yG@&_AWAY_L+GEyG@&_AWAY_L+GESTyG@&_TOW+DS>M&LyG@&_TOW+DS_MEDIUMyG@&_TOW+DS_L+GEyG@&_TOW+DS_L+GEST
yG@&_BETWE~_AWAY>M&LyG@&_BETWE~_AWAY_MEDIUMyG@&_BETWE~_AWAY_L+GEyG@&_BETWE~_AWAY_L+GEST
yG@&_BETWE~_TOW+DS>M&LyG@&_BETWE~_TOW+DS_MEDIUMyG@&_BETWE~_TOW+DS_L+GEyG@&_BETWE~_TOW+DS_L+GEST
vFLOORPL=;S:GL;STRA.>M&LyORPL=;S:GL;STRA._MEDIUMyORPL=;S:GL;STRA._L+GEyORPL=;S:GL;STRA._L+GEST
yORPL=;S:GL;WRIST_F|XyORPL=;DOUBL;STRA.yORPL=;DOUBL;WRIST_F|XyORPL=;DOUBL;&T,NAT:G
yORPL=;DOUBL;&T,NAT:G_WRIST_F|XyORPL=;CROSSyORPL=;TRIPL;STRA._MOVEM~TyORPL=;TRIPL;WRIST_F|X
yORPL=;TRIPL;&T,NAT:G_MOVEM~TyORPL=;TRIPL;&T,NAT:G_WRIST_F|XyORPL=;B~DyORPL=;CORN,>M&L
yORPL=;CORN,_MEDIUMyORPL=;CORN,_L+GEyORPL=;CHECKyORPL=;BOX>M&LyORPL=;BOX_MEDIUMyORPL=;BOX_L+GE
yORPL=;ZIGZAG>M&LyORPL=;ZIGZAG_MEDIUMyORPL=;ZIGZAG_L+GEyORPL=;PEAKS>M&LyORPL=;PEAKS_MEDIUM
yORPL=;PEAKS_L+GEmTRAVEL-FLOORPL=;ROTATI@-FLOORPL=;S:G|yPL=;ROTATI@-FLOORPL=;DOUB|
yPL=;ROTATI@-FLOORPL=;&T,NAT:GyPL=;ROTATI@-W&LPL=;S:G|yPL=;ROTATI@-W&LPL=;DOUB|
yPL=;ROTATI@-W&LPL=;&T,NAT:GyPL=;SHAK:GmMOVEM~T-W&LPL=;CURV;QU+T,>M&LyLPL=;CURV;QU+T,_MEDIUM
yLPL=;CURV;QU+T,_L+GEyLPL=;CURV;QU+T,_L+GESTyLPL=;CURV;H&F-CIRCL;SM&LyLPL=;CURV;H&F-CIRCL;MEDIUM
yLPL=;CURV;H&F-CIRCL;L+GEyLPL=;CURV;H&F-CIRCL;L+GESTyLPL=;CURV;THREE-QU+T,_CIRCL;SM&L
yLPL=;CURV;THREE-QU+T,_CIRCL;MEDIUMyLPL=;HUMP>M&LyLPL=;HUMP_MEDIUMyLPL=;HUMP_L+GEyLPL=;LOOP>M&L
yLPL=;LOOP_MEDIUMyLPL=;LOOP_L+GEyLPL=;LOOP>M&L_DOUB|yLPL=;WAV;CURV;DOUBL;SM&L
yLPL=;WAV;CURV;DOUBL;MEDIUMyLPL=;WAV;CURV;DOUBL;L+GEyLPL=;WAV;CURV;TRIPL;SM&L
yLPL=;WAV;CURV;TRIPL;MEDIUMyLPL=;WAV;CURV;TRIPL;L+GEyLPL=;CURV;TH~>TRA.yLPL=;CURVE^CROSS>M&L
yLPL=;CURVE^CROSS_MEDIUMmROTATI@-W&LPL=;S:G|yLPL=;DOUB|yLPL=;&T,NATEmMOVEM~T-W&LPL=;SHAK:G
yLPL=;CURV;HITT:G_FR@T_W&LyLPL=;HUMP_HITT:G_FR@T_W&LyLPL=;LOOP_HITT:G_FR@T_W&L
yLPL=;WAV;HITT:G_FR@T_W&LmROTATI@-W&LPL=;S:GL;HITT:G_FR@T_W&LyLPL=;DOUBL;HITT:G_FR@T_W&L
yLPL=;&T,NAT:G_HITT:G_FR@T_W&LmMOVEM~T-W&LPL=;CURV;HITT:G_CHESTyLPL=;HUMP_HITT:G_CHEST
yLPL=;LOOP_HITT:G_CHESTyLPL=;WAV;HITT:G_CHESTmROTATI@-W&LPL=;S:GL;HITT:G_CHEST
yLPL=;DOUBL;HITT:G_CHESTyLPL=;&T,NAT:G_HITT:G_CHESTmMOVEM~T-W&LPL=;WAV;DIAG@&_PATH>M&L
yLPL=;WAV;DIAG@&_PATH_MEDIUMyLPL=;WAV;DIAG@&_PATH_L+GEvFLOORPL=;CURV;HITT:G_CEIL:G>M&L
yORPL=;CURV;HITT:G_CEIL:G_L+GEyORPL=;HUMP_HITT:G_CEIL:G>M&L_DOUB|yORPL=;HUMP_HITT:G_CEIL:G_L+G;DOUB|
yORPL=;HUMP_HITT:G_CEIL:G>M&L_TRIP|yORPL=;HUMP_HITT:G_CEIL:G_L+G;TRIP|
yORPL=;LOOP_HITT:G_CEIL:G>M&L>:G|yORPL=;LOOP_HITT:G_CEIL:G_L+G;S:G|
yORPL=;LOOP_HITT:G_CEIL:G>M&L_DOUB|yORPL=;LOOP_HITT:G_CEIL:G_L+G;DOUB|yORPL=;WAV;HITT:G_CEIL:G>M&L
yORPL=;WAV;HITT:G_CEIL:G_L+GEmROTATI@-FLOORPL=;S:GL;HITT:G_CEIL:GyORPL=;DOUBL;HITT:G_CEIL:G
yORPL=;&T,NAT:G_HITT:G_CEIL:GmMOVEM~T-FLOORPL=;CURV;HITT:G_FLOOR>M&LyORPL=;CURV;HITT:G_FLOOR_L+GE
yORPL=;HUMP_HITT:G_FLOOR>M&L_DOUB|yORPL=;HUMP_HITT:G_FLOOR_L+G;DOUB|
yORPL=;HUMP_HITT:G_FLOOR_TRIPL;SM&L_TRIP|yORPL=;HUMP_HITT:G_FLOOR_TRIPL;L+G;TRIP|
yORPL=;LOOP_HITT:G_FLOOR>M&L>:G|yORPL=;LOOP_HITT:G_FLOOR_L+G;S:G|yORPL=;LOOP_HITT:G_FLOOR>M&L_DOUB|
yORPL=;LOOP_HITT:G_FLOOR_L+G;DOUB|yORPL=;WAV;HITT:G_FLOOR>M&LyORPL=;WAV;HITT:G_FLOOR_L+GE
mROTATI@-FLOORPL=;S:GL;HITT:G_FLOORyORPL=;DOUBL;HITT:G_FLOORyORPL=;&T,NAT:G_HITT:G_FLOOR
mMOVEM~T-FLOORPL=;CURV;SM&LyORPL=;CURV;MEDIUMyORPL=;CURV;L+GEyORPL=;CURV;L+GESTyORPL=;CURV;COMB:ED
yORPL=;HUMP>M&LyORPL=;LOOP>M&LyORPL=;WAV;SNAKEyORPL=;WAV;SM&LyORPL=;WAV;L+GEmROTATI@-FLOORPL=;S:G|
yORPL=;DOUB|yORPL=;&T,NAT:GmMOVEM~T-FLOORPL=;SHAK:G_P+&|LvW&LPL=;+M_CIRCL;SM&L>:G|
yLPL=;+M_CIRCL;MEDIUM>:G|yLPL=;+M_CIRCL;SM&L_DOUB|yLPL=;+M_CIRCL;MEDIUM_DOUB|
vFLOORPL=;+M_CIRCL;HITT:G_W&L>M&L>:G|yORPL=;+M_CIRCL;HITT:G_W&L_MEDIUM>:G|
yORPL=;+M_CIRCL;HITT:G_W&L_L+G;S:G|yORPL=;+M_CIRCL;HITT:G_W&L>M&L_DOUB|
yORPL=;+M_CIRCL;HITT:G_W&L_MEDIUM_DOUB|yORPL=;+M_CIRCL;HITT:G_W&L_L+G;DOUB|
vW&LPL=;WRIST_CIRCL;FR@T>:G|yLPL=;WRIST_CIRCL;FR@T_DOUB|vFLOORPL=;WRIST_CIRCL;HITT:G_W&L>:G|
yORPL=;WRIST_CIRCL;HITT:G_W&L_DOUB|vW&LPL=;F:G,_CIRC|S>:G|yLPL=;F:G,_CIRC|S_DOUB|
vFLOORPL=;F:G,_CIRC|S_HITT:G_W&L>:G|yORPL=;F:G,_CIRC|S_HITT:G_W&L_DOUB|mDYNAMIC_+ROWHEAD>M&L
yWHEA^L+GEuFASTuSLOWuT~SEuRELAXEDuSIMULT=EOUSyLT=EOUS_&T,NAT:GuEV,Y_OTH,_TIMEuGRADU&mHEADq_RIM
rMOVEM~T-W&LPL=;STRA.yT-W&LPL=;TILTyT-FLOORPL=;STRA.yT-W&LPL=;CURVEyT-FLOORPL=;CURVEyT_CIRC|
mFAC;DIRECTI@_POSITI@_NOS;FORW+^TILT:Gy@_POSITI@_NOS;UP_OR_DOWNy@_POSITI@_NOS;UP_OR_DOWN_TILT:G
mEYEBROWS>TRA._UPyA._NEUTR&yA._DOWNmDREAMY_EYEBROWS_NEUTR&_DOWNyOWS_DOWN_NEUTR&yOWS_UP_NEUTR&
yOWS_NEUTR&_UPmFOREHEA^NEUTR&vC@TACTvWR:K|DmEYES_OP~rSQUEEZEDrCLOSEDp_BL:K>:G|wMULTIP|pS_H&F_OP~
rWID;OP~rH&F_CLOSEDrWID~:G_MOVEM~Tp_W:KpLASHES_UPwDOWNwFLUTT,:GpGAZE-W&LPL=;STRA.yPL=;STRA._DOUB|
yPL=;STRA._&T,NAT:GuFLOORPL=;STRA.yRPL=;STRA._DOUB|yRPL=;STRA._&T,NAT:GuW&LPL=;CURVED
uFLOORPL=;CURVEDuW&LPL=;CIRCL:GmCHEEKS_PUFFEDtNEUTR&tSUCKEDmT~S;CHEEKS_HIGHy_MIDD|y_LOWmE+S
mNOS;NEUTR&rC@TACTrWR:K|SsIGG|SmAIR_BLOW:G_OUTqSUCK:G_:qBLOW>M&L_ROTATI@SqSUCK>M&L_ROTATI@S
mBREATH_:H&EtEXH&EmMOUTH_CLOSE^NEUTR&y_FORW+Dy_C@TACTsSMI|x_WR:K|DyOP~sFROWNx_WR:K|DyOP~sOP~_CIRC|
xFORW+DxWR:K|DxOV&yV&_WR:K|DyV&_YAWNxRECT=G|yECT=GL;WR:K|DyECT=GL;YAWNsKISSw_FORW+DxWR:K|DsT~SE
x_FORW+DySUCKEDmLIPS_PRESSE^TOGETH,p_LOW,_OV,_UPP,qUPP,_OV,_LOW,mMOUTH_CORN,SsWR:K|S>:G|yES_DOUB|
mT@GU;STICK:G_OUT_F+tLICK:G_LIPStTIP_BETWE~_LIPSxTOUCH:G_:SID;MOUTHt:SID;MOUTH_RELAXED
tMOVES_AGA:ST_CHEEKtC~TR;STICK:G_OUTy;:SID;MOUTHnEETHr_MOVEM~Ts@_T@GUEyGU;MOVEM~TvLIPSyS_MOVEM~T
sBIT;LIPSmMOVEM~T-W&LPL=;JAWvFLOORPL=;JAWmNECKmHAIRmEXCITEM~TmSHOULD,_HIP>P:Ey_POSITI@S
mW&LPL=;SHOULD,_HIP_MOVEmFLOORPL=;SHOULD,_HIP_MOVEmSHOULD,_TILT:G_FROM_WAIST
mTORSO-W&LPL=;STRA.>TRETCHy=;CURVE^B~DsFLOORPL=;TWIST:GmUPP,_BODY_TILT:G_FROM_HIP_JO:TS
mLIMB_COMB:ATI@r|NGTH-1y2y3y4y5y6y7mF:G,mLOCATI@-W&LPL=;SPACEvFLOORPL=;SPACEu_HE.vWIDTHvDEPTH
vHEA^NECKvTORSOvLIMBS_DIGITSmCOMMAmFULL>TOPmSEMICOL@mCOL@mP+~THESISz1DA9BmFILL_MODIFI,-2yR-3yR-4yR-5
yR-6z1DAA1mROTATI@_MODIFI,-2yIFI,-3yIFI,-4yIFI,-5yIFI,-6yIFI,-7yIFI,-8yIFI,-9yIFI,-10yIFI,-11
yIFI,-12yIFI,-13yIFI,-14yIFI,-15yIFI,-16z1DF00aLAT:>M&!F~G_DIGRAPH$TRILLtREV,SED>CRIPT_G
g|TT,>M&L_%L_TURNE^GgSM&!REV,SE^Kg|TT,>M&L_%L_L$BELTgSM&!|ZH$RETROF|X_HOOKtTURNE^Y$BELTtREV,SE^~G
tTURNE^R$L@G_|G_=^RETROF|X_HOOKu$HOOK_=^RETROF|X_HOOKg|TT,_RETROF|X_CLICK$RETROF|X_HOOK
gSM&!ESH$DOUBL;B+yITH_DOUBL;B+_=^CURLtTURNE^T$CURLg|TT,_:V,TE^GLOTT&>TOP$CURLnSTRETCHE^C$CURL
oM&L_%L_TURNE^KgSM&!L$FISHHOOKtDEZH_DIGRAPH$P&AT&_HOOKtL$BELT_=^P&AT&_HOOKt~G$P&AT&_HOOK
tTURNE^R$P&AT&_HOOKtR$FISHHOOK_=^P&AT&_HOOKtTESH_DIGRAPH$P&AT&_HOOKtEZH$P&AT&_HOOK
tDEZH_DIGRAPH$RETROF|X_HOOKtI$STROK;=^RETROF|X_HOOKtO$RETROF|X_HOOKtTESH_DIGRAPH$RETROF|X_HOOK
tC$RETROF|X_HOOKtS$CURLz1E000aCOMB::G_GLAGOLITIC_|TT,_AZUyT,_BUKYyT,_VEDEyT,_GLAGOLIyT,_DOBRO
yT,_YESTUyT,_ZHIVETEz1E008yT,_ZEMLJAyT,_IZHEyT,_:ITI&_IZHEyT,_IyT,_DJ,VIyT,_KAKOyT,_LJUDIJE
yT,_MYSLITEyT,_NASHIyT,_@UyT,_POKOJIyT,_RITSIyT,>LOVOyT,_TVRIDOyT,_UKUyT,_FRITUyT,_H,Uz1E01ByT,>HTA
yT,_TSIyT,_CHRIVIyT,>HAyT,_Y,UyT,_Y,IyT,_YATIz1E023yT,_YUyT,>M&L_YUSz1E026yT,_YOyT,_IOTATED>M&L_YUS
yT,_BIG_YUSyT,_IOTATE^BIG_YUSyT,_FITAz1E100aNYIAK~G_PUACHU;HM@G_|TT,_MAyETT,_TSAyETT,_NTAyETT,_TA
yETT,_HAyETT,_NAyETT,_XAyETT,_NKAyETT,_CAyETT,_LAyETT,>AyETT,_ZAyETT,_NCAyETT,_NTSAyETT,_KAyETT,_DA
yETT,_NYAyETT,_NRAyETT,_VAyETT,_NTXAyETT,_TXAyETT,_FAyETT,_RAyETT,_QAyETT,_YAyETT,_NQAyETT,_PA
yETT,_XYAyETT,_NPAyETT,_DLAyETT,_NPLAyETT,_HAHyETT,_MLAyETT,_PLAyETT,_GAyETT,_RRAyETT,_AyETT,_AA
yETT,_IyETT,_UyETT,_OyETT,_OOyETT,_EyETT,_EEyETT,_Wz1E130xT@E-By@E-My@E-Jy@E-Vy@E-Sy@E-Gy@E-D
xSIGN_FOR_P,S@yIGN_FOR_TH:GyIGN_FOR_LOCATI@yIGN_FOR_=IM&yIGN_FOR_:V,TEBRATEyIGN_XW_XWyYLLABL;|NGTH~,
z1E140xDIGIT_Z,OyIGIT_@EyIGIT_TWOyIGIT_THREEyIGIT_FOURyIGIT_FIVEyIGIT>IXyIGIT>EV~yIGIT_E.yIGIT_N:E
z1E14ExLOGOGRAM_NYAJxCIRC|^CAz1E290aTOTO_|TT,_PAmBAmTAmDAmKAmGAmMAmNAnGAmSAmCHAmYAmWAmJAmHAmRAmLAmI
mBREATHY_ImIUmBREATHY_IUmUmEmBREATHY_EmEOmBREATHY_EOmOmAEmBREATHY_AEmAfSIGN_RIS:G_T@E
z1E2C0aW=CHO_|TT,_AApoBAoCAoDAoGAoYAoPHAoLAoNAoPAoTApHAoFAoSApHAoJAoZAoWAoVAoKAoOoAUoRAoMAoKHAoHAoE
oIoNGAoUoLLHAoTSApRAo@GoA=GpNGo:Go@o~oA=oNYAoU~oYIHhT@;TUPpNImKOIpNIhDIGIT_Z,On@EnTWOoHREEnFOURoIVE
nSIXoEV~nE.nN:Ez1E2FFhNGUN>IGNz1E7E0aETHIOPIC>YLLABL;HHYAvUvIvAAvEEwvOz1E7E8sGURAG;HHWAsHHWIvEEw
z1E7EDsGURAG;MWIy_MWEEz1E7F0y_QWIy_QWEEy_QWEy_BWIy_BWEEy_KWIy_KWEEy_KWEy_GWIy_GWEEy_GWEy_FWIy_FWEE
y_PWIy_PWEEz1E800aM~D;KIKAKUI>YLLABL;M001_KIy002_KAy003_KUy065_KEEy095_KEy076_KOOy048_KOy179_KUA
y004_WIy005_WAy006_WUy126_WEEy118_WEy114_WOOy045_WOy194_WUIy143_WEIy061_WVIy049_WVAy139_WVEy007_M:
y008_M=y009_MUNy059_M~y094_M@y154_MU=y189_MU~y010_BIy011_BAy012_BUy150_BEEy097_BEy103_BOOy138_BO
y013_Iy014_Ay015_Uy163_EEy100_Ey165_OOy147_Oy137_EIy131_:y135_:y195_=y178_~y019>Iy020>Ay021>Uy162>EE
y116>Ey136>OOy079>Oy196>IAy025_LIy026_LAy027_LUy084_|Ey073_|y054_LOOy153_LOy110_L@G_|y016_DIy017_DA
y018_DUy089_DEEy180_DOOy181_DOy022_TIy023_TAy024_TUy091_TEEy055_TEy104_TOOy069_TOy028_JIy029_JA
y030_JUy157_JEEy113_JEy160_JOOy063_JOy175_L@G_JOy031_YIy032_YAy033_YUy109_YEEy080_YEy141_YOOy121_YO
y034_FIy035_FAy036_FUy078_FEEy075_FEy133_FOOy088_FOy197_FUAy101_F=y037_N:y038_N=y039_NUNy117_N~
y169_N@y176_HIy041_HAy186_HUy040_HEEy096_HEy042_HOOy140_HOy083_HEEIy128_HOOUy053_H:y130_H=y087_HUN
y052_H~y193_H@y046_HU=y090_NGGIy043_NGGAy082_NGGUy115_NGGEEy146_NGGEy156_NGGOOy120_NGGOy159_NGGAA
y127_NGGUAy086_L@G_NGGEy106_L@G_NGGOOy183_L@G_NGGOy155_GIy111_GAy168_GUy190_GEEy166_GUEIy167_GU=
y184_NG~y057_NG@y177_NGU=y068_PIy099_PAy050_PUy081_PEEy051_PEy102_POOy066_POy145_MBIy062_MBAy122_MBU
y047_MBEEy188_MBEEy072_MBEy172_MBOOy174_MBOy187_MBUUy161_L@G_MBEy105_L@G_MBOOy142_L@G_MBOy132_KPI
y092_KPAy074_KPUy044_KPEEy108_KPEy112_KPOOy158_KPOy124_GBIy056_GBAy148_GBUy093_GBEEy107_GBEy071_GBOO
y070_GBOy171_RAy123_NDIy129_NDAy125_NDUy191_NDEEy119_NDEy067_NDOOy064_NDOy152_NJAy192_NJUy149_NJEE
y134_NJOOy182_VIy185_VAy151_VUy173_VEEy085_VEy144_VOOy077_VOy164_NY:y058_NY=y170_NYUNy098_NY~
y060_NY@z1E8C7oDIGIT_@EuTWOvHREEuFOURvIVEuSIXvEV~uE.uN:EoCOMB::G_NUMB,_TE~SyNUMB,_T~SyNUMB,_HUNDREDS
yNUMB,_THOUS=DSyNUMB,_T~_THOUS=DSyNUMB,_HUNDRE^THOUS=DSyNUMB,_MILLI@Sz1E900aADLAM_%!&IFvDA&IvLAAM
vMIIMvBAvS:NYIIYHEvPEvBHEvRAvEvFAvIvOvDHAvYHEvWAWvNUNvKAFvYAvUvJIIMvCHIvHAvQAAFvGAvNYAvTUvNHAvVAvKHA
vGBEvZ&vKPOvSHAgSM&!&IFtDA&ItLAAMtMIIMtBAtS:NYIIYHEtPEtBHEtRAtEtFAtItOtDHAtYHEtWAWtNUNtKAFtYAtUtJIIM
tCHItHAtQAAFtGAtNYAtTUtNHAtVAtKHAtGBEtZ&tKPOtSHAg&IF_|NGTH~,gVOWEL_|NGTH~,gGEM:ATI@_M+KgHAMZA
gC@S@=T_MODIFI,gGEM:AT;C@S@=T_MODIFI,gNUKTAhAS&IZATI@_M+Kz1E950gDIGIT_Z,Om@EmTWOnHREEmFOURnIVEmSIX
nEV~mE.mN:Ez1E95Eg:ITI&_EXCLAMATI@_M+KoQUESTI@_M+Kz1EC71a:DIC>IYAQ_NUMB,_@EtTWOuHREEtFOURuIVEtSIX
uEV~tE.tN:EtT~uW~TYuHIRTYtFORTYuIFTYtSIXTYuEV~TYtE.YtN:ETYt@;HUNDREDtTWO_HUNDREDuHRE;HUNDRED
tFOUR_HUNDREDuIV;HUNDREDtSIX_HUNDREDuEV~_HUNDREDtE._HUNDREDtN:;HUNDREDt@;THOUS=DtTWO_THOUS=D
uHRE;THOUS=DtFOUR_THOUS=DuIV;THOUS=DtSIX_THOUS=DuEV~_THOUS=DtE._THOUS=DtN:;THOUS=DtT~_THOUS=D
uW~TY_THOUS=DuHIRTY_THOUS=DtFORTY_THOUS=DuIFTY_THOUS=DtSIXTY_THOUS=DuEV~TY_THOUS=DtE.Y_THOUS=D
tN:ETY_THOUS=DtLAKHx=mLAKH_M+KmNUMB,_K+ORy=tPREFIXE^@EyXE^TWOyXE^THREEyXE^FOURyXE^FIVEyXED>IX
yXED>EV~yXE^E.yXE^N:EmPLACEHOLD,mFRACTI@_@;QU+T,y_H&FvTHRE;QU+T,SmRUPE;M+KmNUMB,_&T,NAT;@EyNAT;TWO
yNAT;T~_THOUS=Dm&T,NAT;LAKH_M+Kz1ED01aOTTOM=>IYAQ_NUMB,_@EvTWOwHREEvFOURwIVEvSIXwEV~vE.vN:EvT~wW~TY
wHIRTYvFORTYwIFTYvSIXTYwEV~TYvE.YvN:ETYv@;HUNDREDvTWO_HUNDREDwHRE;HUNDREDvFOUR_HUNDREDwIV;HUNDRED
vSIX_HUNDREDwEV~_HUNDREDvE._HUNDREDvN:;HUNDREDv@;THOUS=DvTWO_THOUS=DwHRE;THOUS=DvFOUR_THOUS=D
wIV;THOUS=DvSIX_THOUS=DwEV~_THOUS=DvE._THOUS=DvN:;THOUS=DvT~_THOUS=DwW~TY_THOUS=DwHIRTY_THOUS=D
vFORTY_THOUS=DwIFTY_THOUS=DvSIXTY_THOUS=DwEV~TY_THOUS=DvE.Y_THOUS=DvN:ETY_THOUS=DoM+RAT=
o&T,NAT;NUMB,_TWOyNUMB,_THREEyNUMB,_FOURyNUMB,_FIVEyNUMB,>IXyNUMB,>EV~yNUMB,_E.yNUMB,_N:EyNUMB,_T~
yNUMB,_FOUR_HUNDREDyNUMB,>IX_HUNDREDyNUMB,_TWO_THOUS=DyNUMB,_T~_THOUS=DoFRACTI@_@;H&FyN;SIXTH
z1EE00a+ABIC_MATHEMATIC&_&EFuBEHuJEEMuD&z1EE05uWAWuZA:uHAHuTAHuYEHuKAFuLAMuMEEMuNO@uSE~uA:uFEHuSAD
uQAFuREHuSHE~uTEHvHEHuKHAHuTH&uDADuZAHuGHA:uDOT|SS_BEHyESS_NO@yESS_FEHyESS_QAFz1EE21u:ITI&_BEH
yI&_JEEMz1EE24yI&_HEHz1EE27yI&_HAHz1EE29yI&_YEHyI&_KAFyI&_LAMyI&_MEEMyI&_NO@yI&>E~yI&_A:yI&_FEH
yI&>ADyI&_QAFz1EE34yI&>HE~yI&_TEHyI&_THEHyI&_KHAHz1EE39yI&_DADz1EE3ByI&_GHA:z1EE42uTAI|^JEEM
z1EE47yE^HAHz1EE49yE^YEHz1EE4ByE^LAMz1EE4DyE^NO@yED>E~yE^A:z1EE51yED>ADyE^QAFz1EE54yED>HE~
z1EE57yE^KHAHz1EE59yE^DADz1EE5ByE^GHA:z1EE5DyE^DOT|SS_NO@z1EE5FyE^DOT|SS_QAFz1EE61uSTRETCHE^BEH
yTCHE^JEEMz1EE64yTCHE^HEHz1EE67yTCHE^HAHyTCHE^TAHyTCHE^YEHyTCHE^KAFz1EE6CyTCHE^MEEMyTCHE^NO@
yTCHED>E~yTCHE^A:yTCHE^FEHyTCHED>ADyTCHE^QAFz1EE74yTCHED>HE~yTCHE^TEHyTCHE^THEHyTCHE^KHAH
z1EE79yTCHE^DADyTCHE^ZAHyTCHE^GHA:yTCHE^DOT|SS_BEHz1EE7EyTCHE^DOT|SS_FEHz1EE80uLOOPE^&EFyE^BEH
yE^JEEMyE^D&yE^HEHyE^WAWyE^ZA:yE^HAHyE^TAHyE^YEHz1EE8ByE^LAMyE^MEEMyE^NO@yED>E~yE^A:yE^FEHyED>AD
yE^QAFyE^REHyED>HE~yE^TEHyE^THEHyE^KHAHyE^TH&yE^DADyE^ZAHyE^GHA:z1EEA1uDOUB|-STRUCK_BEH
y|-STRUCK_JEEMy|-STRUCK_D&z1EEA5y|-STRUCK_WAWy|-STRUCK_ZA:y|-STRUCK_HAHy|-STRUCK_TAHy|-STRUCK_YEH
z1EEABy|-STRUCK_LAMy|-STRUCK_MEEMy|-STRUCK_NO@y|-STRUCK>E~y|-STRUCK_A:y|-STRUCK_FEHy|-STRUCK>AD
y|-STRUCK_QAFy|-STRUCK_REHy|-STRUCK>HE~y|-STRUCK_TEHy|-STRUCK_THEHy|-STRUCK_KHAHy|-STRUCK_TH&
y|-STRUCK_DADy|-STRUCK_ZAHy|-STRUCK_GHA:z1EEF0uOP,ATOR_MEEM$HAH$TATWEELyATOR_HAH$D&
z1F000aMAHJ@G_TIL;EAST_W:DnSOUTH_W:DnWEST_W:DnNORTH_W:DnRE^DRAG@nGRE~_DRAG@nWHIT;DRAG@n@;OF_CH+ACT,S
nTWO_OF_CH+ACT,SoHRE;OF_CH+ACT,SnFOUR_OF_CH+ACT,SoIV;OF_CH+ACT,SnSIX_OF_CH+ACT,SoEV~_OF_CH+ACT,S
nE._OF_CH+ACT,SnN:;OF_CH+ACT,Sn@;OF_BAMBOOSnTWO_OF_BAMBOOSoHRE;OF_BAMBOOSnFOUR_OF_BAMBOOS
oIV;OF_BAMBOOSnSIX_OF_BAMBOOSoEV~_OF_BAMBOOSnE._OF_BAMBOOSnN:;OF_BAMBOOSn@;OF_CIRC|SnTWO_OF_CIRC|S
oHRE;OF_CIRC|SnFOUR_OF_CIRC|SoIV;OF_CIRC|SnSIX_OF_CIRC|SoEV~_OF_CIRC|SnE._OF_CIRC|SnN:;OF_CIRC|S
nPLUMnORCHIDnBAMBOOnCHRYS=THEMUMnSPR:GoUMM,nAUTUMNnW:T,nJOK,nBACKz1F030aDOM:O_TIL;HORIZ@T&_BACK
w-00-00y0-01y0-02y0-03y0-04y0-05y0-06y1-00y1-01y1-02y1-03y1-04y1-05y1-06y2-00y2-01y2-02y2-03y2-04
y2-05y2-06y3-00y3-01y3-02y3-03y3-04y3-05y3-06y4-00y4-01y4-02y4-03y4-04y4-05y4-06y5-00y5-01y5-02y5-03
y5-04y5-05y5-06y6-00y6-01y6-02y6-03y6-04y6-05y6-06mV,TIC&_BACKu-00-00y01y02y03y04y05y06w1-00y01y02
y03y04y05y06w2-00y01y02y03y04y05y06w3-00y01y02y03y04y05y06w4-00y01y02y03y04y05y06w5-00y01y02y03y04
y05y06w6-00y01y02y03y04y05y06z1F0A0aPLAY:G_C+^BACKnAC;OF>PADESnTWO_OF>PADESoHRE;OF>PADES
nFOUR_OF>PADESoIV;OF>PADESnSIX_OF>PADESoEV~_OF>PADESnE._OF>PADESnN:;OF>PADESnT~_OF>PADES
nJACK_OF>PADESnKN._OF>PADESnQUE~_OF>PADESnK:G_OF>PADESz1F0B1nAC;OF_HE+TSnTWO_OF_HE+TSoHRE;OF_HE+TS
nFOUR_OF_HE+TSoIV;OF_HE+TSnSIX_OF_HE+TSoEV~_OF_HE+TSnE._OF_HE+TSnN:;OF_HE+TSnT~_OF_HE+TS
nJACK_OF_HE+TSnKN._OF_HE+TSnQUE~_OF_HE+TSnK:G_OF_HE+TSnRE^JOK,z1F0C1nAC;OF_DIAM@DSnTWO_OF_DIAM@DS
oHRE;OF_DIAM@DSnFOUR_OF_DIAM@DSoIV;OF_DIAM@DSnSIX_OF_DIAM@DSoEV~_OF_DIAM@DSnE._OF_DIAM@DS
nN:;OF_DIAM@DSnT~_OF_DIAM@DSnJACK_OF_DIAM@DSnKN._OF_DIAM@DSnQUE~_OF_DIAM@DSnK:G_OF_DIAM@DS
nBLACK_JOK,z1F0D1nAC;OF_CLUBSnTWO_OF_CLUBSoHRE;OF_CLUBSnFOUR_OF_CLUBSoIV;OF_CLUBSnSIX_OF_CLUBS
oEV~_OF_CLUBSnE._OF_CLUBSnN:;OF_CLUBSnT~_OF_CLUBSnJACK_OF_CLUBSnKN._OF_CLUBSnQUE~_OF_CLUBS
nK:G_OF_CLUBSnWHIT;JOK,nFOOLnTRUMP-1t2t3t4t5t6t7t8t9t10u1u2u3u4u5u6u7u8u9t20u1
z1F100aDIGIT_Z,O_FULL>TOPlCOMMAg@;COMMAgTWO_COMMAhHRE;COMMAgFOUR_COMMAhIV;COMMAgSIX_COMMAhEV~_COMMA
gE._COMMAgN:;COMMAcNGBAT_CIRC|D>=S-S,IF_DIGIT_Z,OiNEGATIV;CIRC|D>=S-S,IF_DIGIT_Z,OaCIRC|^Z,O$SLASH
i=TICLOCKWIS;+ROWiDOLL+>IGN$OV,LAI^BACKSLASHaP+~THESIZE^LAT:_%!AyTA!ByTA!CyTA!DyTA!EyTA!FyTA!GyTA!H
yTA!IyTA!JyTA!KyTA!LyTA!MyTA!NyTA!OyTA!PyTA!QyTA!RyTA!SyTA!TyTA!UyTA!VyTA!WyTA!XyTA!YyTA!Z
aTORTOIS;SHELL_BRACKETE^LAT:_%!SaCIRC|^IT&IC_LAT:_%!CyITA!RiCDiWZbOPY|FT>YMBOLaSQU+E^LAT:_%!AyTT,_B
yTT,_CyTT,_DyTT,_EyTT,_FyTT,_GyTT,_HyTT,_IyTT,_JyTT,_KyTT,_LyTT,_MyTT,_NyTT,_OyTT,_PyTT,_QyTT,_R
yTT,>yTT,_TyTT,_UyTT,_VyTT,_WyTT,_XyTT,_YyTT,_ZiHViMViSDjSiPPViWCaNEGATIV;CIRC|^LAT:_%!AyAPITA!B
yAPITA!CyAPITA!DyAPITA!EyAPITA!FyAPITA!GyAPITA!HyAPITA!IyAPITA!JyAPITA!KyAPITA!LyAPITA!MyAPITA!N
yAPITA!OyAPITA!PyAPITA!QyAPITA!RyAPITA!SyAPITA!TyAPITA!UyAPITA!VyAPITA!WyAPITA!XyAPITA!YyAPITA!Z
aRAISE^MC>IGNiD>IGNiR>IGNaCIRC|^CCj$OV,LAI^BACKSLASHiHUM=_FIGUREaNEGATIV;SQU+E^LAT:_%!AyAPITA!B
yAPITA!CyAPITA!DyAPITA!EyAPITA!FyAPITA!GyAPITA!HyAPITA!IyAPITA!JyAPITA!KyAPITA!LyAPITA!MyAPITA!N
yAPITA!OyAPITA!PyAPITA!QyAPITA!RyAPITA!SyAPITA!TyAPITA!UyAPITA!VyAPITA!WyAPITA!XyAPITA!YyAPITA!Z
aCROSSE^NEGATIV;SQU+E^LAT:_%!PaNEGATIV;SQU+E^ICrPArSArABrWCaSQU+;DJg^CLjOOLiFREEiIDiNEWjGiOKiSOS
iUP$EXCLAMATI@_M+KiVSiTHRE;DiSEC@D>CRE~iTWO_KiFOUR_KiE._KiFIV;PO:T_@EiSEV~_PO:T_@E
iTW~TY-TWO_PO:T_TWOiSIXTY_Pi@;HUNDRE^TW~TY_PiLAT:>M&!DiHCjDRjI-RESiLOSS|SSiSHViUHDiVOD
aMASK_WORK>YMBOLz1F1E6aREGI@&_:DICATOR>YMBO!Ay!By!Cy!Dy!Ey!Fy!Gy!Hy!Iy!Jy!Ky!Ly!My!Ny!Oy!Py!Qy!Ry!S
y!Ty!Uy!Vy!Wy!Xy!Yy!ZaSQU+;HIRAG=A_HOKAg^KATAK=A_KOKOrSAz1F210iCJK_UNIFIE^IDEOGRAPH-624ByGRAPH-5B57
yGRAPH-53CCiKATAK=A_DEiCJK_UNIFIE^IDEOGRAPH-4E8CyGRAPH-591AyGRAPH-89E3yGRAPH-5929yGRAPH-4EA4
yGRAPH-6620yGRAPH-7121yGRAPH-6599yGRAPH-524DyGRAPH-5F8CyGRAPH-518DyGRAPH-65B0yGRAPH-521DyGRAPH-7D42
yGRAPH-751FyGRAPH-8CA9yGRAPH-58F0yGRAPH-5439yGRAPH-6F14yGRAPH-6295yGRAPH-6355yGRAPH-4E00yGRAPH-4E09
yGRAPH-904AyGRAPH-5DE6yGRAPH-4E2DyGRAPH-53F3yGRAPH-6307yGRAPH-8D70yGRAPH-6253yGRAPH-7981yGRAPH-7A7A
yGRAPH-5408yGRAPH-6E80yGRAPH-6709yGRAPH-6708yGRAPH-7533yGRAPH-5272yGRAPH-55B6yGRAPH-914D
z1F240aTORTOIS;SHELL_BRACKETE^CJK_UNIFIE^IDEOGRAPH-672Cy_CJK_UNIFIE^IDEOGRAPH-4E09
y_CJK_UNIFIE^IDEOGRAPH-4E8Cy_CJK_UNIFIE^IDEOGRAPH-5B89y_CJK_UNIFIE^IDEOGRAPH-70B9
y_CJK_UNIFIE^IDEOGRAPH-6253y_CJK_UNIFIE^IDEOGRAPH-76D7y_CJK_UNIFIE^IDEOGRAPH-52DD
y_CJK_UNIFIE^IDEOGRAPH-6557z1F250aCIRC|^IDEOGRAPH_ADV=TAGEtCCEPTz1F260aROUNDED>YMBOL_FOR_FUtLUtSHOU
tXItSHU=GXItCAIz1F300aCYCL@EaFOGGYaCLOSE^UMBRELLAaN.$ST+SaSUNRIS;OV,_MOUNTA:ShaCITYSCAP;AT_DUSK
aSUNSET_OV,_BUILD:GSaRA:BOWaBRIDG;AT_N.aWAT,_WAVEaVOLC=OaMILKY_WAYaE+TH_GLOB;EUROPE-AFRICAmAM,ICAS
nSIA-AUSTR&IAaGLOBE$M,IDI=SaNEW_MO@>YMBOLaWAX:G_CRESC~T_MO@>YMBOLaFIRST_QU+T,_MO@>YMBOL
aWAX:G_GIBBOUS_MO@>YMBOLaFULL_MO@>YMBOLaW=:G_GIBBOUS_MO@>YMBOLaLAST_QU+T,_MO@>YMBOL
aW=:G_CRESC~T_MO@>YMBOLaCRESC~T_MO@aNEW_MO@$FACEaFIRST_QU+T,_MO@$FACEaLAST_QU+T,_MO@$FACE
aFULL_MO@$FACEaSUN$FACEaGLOW:G>T+aSHOOT:G>T+aTH,MOMET,aBLACK_DROP|TaWHIT;SUNj$SM&L_CLOUDkBEH:^CLOUD
w$RA:aCLOUD$RA:lSNOWlL.N:GlTORNADOaFOGaW:^BLOW:G_FACEaHOT_DOGaTACOaBURRITOaCHESTNUTaSEEDL:G
aEV,GRE~_TREEaDECIDUOUS_TREEaP&M_TREEaCACTUSaHOT_PEPP,aTULIPaCH,RY_BLOSSOMaROSEaHIBISCUSaSUNFLOW,
aBLOSSOMaE+_OF_MAIZEhRICEaH,BaFOUR_|AF_CLOV,aMAPL;|AFaF&|N_|AFa|AF_FLUTT,:G_:_W:DaMUSHROOMaTOMATO
aAUB,G:EaGRAPESaMEL@aWAT,MEL@aT=G,:Ea|M@aB==AaP:EAPP|aRE^APP|aGRE~_APP|aPE+dCHaCH,RIESaSTRAWB,RY
aHAMBURG,aSLIC;OF_PIZZAaMEAT_@_B@EaPOULTRY_|GaRIC;CRACK,fB&LaCOOKE^RICEbURRY_=^RICEaSTEAM:G_BOWL
bPAGHETTIaBREADaFR~CH_FRIESaROASTED>WEET_POTATOaD=GOaOD~aSUSHIaFRIED>HRIMPbISH_CAKE$SWIRL_DESIGN
aSOFT_IC;CREAMbHAVE^ICEaIC;CREAMaDOUGHNUTaCOOKIEbHOCOLAT;B+b=DYaLOLLIPOPaCUST+DaH@EY_POTaSHORTCAKE
aB~TO_BOXaPOT_OF_FOODaCOOK:GaFORK_=^KNIFEaTEACUP_WITHOUT_H=D|aSAK;BOTTL;=^CUPaW:;GLASS
aCOCKTAIL_GLASSaTROPIC&_DR:KaBE,_MUGaCL:K:G_BE,_MUGSaBABY_BOTT|aFORK_=^KNIFE$PLATEaBOTT|$POPP:G_CORK
aPOPCORNaRIBB@aWRAPPE^PRES~TaBIRTHDAY_CAKEaJACK-O-L=T,NaCHRISTMAS_TREEaFATH,_CHRISTMASbIREWORKS
i>P+KL,aB&LO@aP+TY_POPP,aC@FETTI_B&LaT=ABATA_TREEaCROSSE^FLAGSaP:;DECORATI@aJAP=ES;DOLLSaC+P>TREAM,
aW:^CHIMEaMO@_VIEW:G_C,EM@YaSCHOOL>ATCHELaGRADUATI@_CAPaHE+T$TIP_@_TH;|FTaBOUQUET_OF_FLOW,S
aMILIT+Y_MED&aREM:D,_RIBB@aMUSIC&_KEYBO+D$JACKSaSTUDIO_MICROPH@Ea|VEL>LID,aC@TROL_KNOBS
aBEAME^ASC~D:G_MUSIC&_NOTEShDESC~D:G_MUSIC&_NOTESaFILM_FRAMESaADMISSI@_TICKETSaC+OUSEL_HORSE
aF,RIS_WHEELaROLL,_COAST,aFISH:G_POL;=^FISHaMICROPH@EbOVI;CAM,AaC:EMAaHEADPH@Ea+TIST_P&ETTEaTOP_HAT
aCIRCUS_T~TaTICKETaCLAPP,_BO+DaP,FORM:G_+TSaVIDEO_GAMEaDIRECT_HITaSLOT_MACH:EaBILLI+DSaGAM;DIE
aBOWL:GaFLOW,_PLAY:G_C+DSaMUSIC&_NOTEcLTIPL;MUSIC&_NOTESaSAXOPH@EaGUIT+aMUSIC&_KEYBO+DaTRUMPETaVIOL:
aMUSIC&>COREaRUNN:G>HIRT$SASHaT~NIS_RACQUET_=^B&LaSKI_=D>KI_BOOTaBASKETB&L_=^HOOPaCHEQU,E^FLAG
aSNOWBO+D,aRUNN,aSURF,bPORTS_MED&aTROPHYaHORS;RAC:GaAM,IC=_FOOTB&LaRUGBY_FOOTB&LaSWIMM,aWE._LIFT,
aGOLF,aRAC:G_MOTORCYC|hC+aCRICKET_BAT_=^B&LaVOL|YB&LaFIEL^HOCKEY>TICK_=^B&LaIC;HOCKEY>TICK_=^PUCK
aTABL;T~NIS_PADDL;=^B&LaSNOW_CAPPE^MOUNTA:aCAMP:GaBEACH$UMBRELLAbUILD:G_C@STRUCTI@aHOUS;BUILD:GS
aCITYSCAPEaD,ELICT_HOUS;BUILD:GaCLASSIC&_BUILD:GaDES,Tg_ISL=DaNATI@&_P+KaSTADIUMaHOUS;BUILD:G
gWITH_G+D~aOFFIC;BUILD:GaJAP=ES;POST_OFFICEaEUROPE=_POST_OFFICEaHOSPIT&aB=KaAUTOMATE^TELL,_MACH:E
aHOTELaLOV;HOTELaC@V~I~C;STOREaSCHOOLaDEP+TM~T>TOREaFACTORYaIZAKAYA_L=T,NaJAP=ES;CAST|aEUROPE=_CAST|
aWHIT;P~N=TaBLACK_P~N=TaWAV:G_WHIT;FLAGhBLACK_FLAGaROSETTEaBLACK_ROSETTEaLABEL
aBADM:T@_RACQUET_=D>HUTT|COCKbOW_=^+ROWaAMPHORAaEMOJI_MODIFI,_FITZPATRICK_TYPE-1-2yCK_TYPE-3
yCK_TYPE-4yCK_TYPE-5yCK_TYPE-6aRATaMOUSEaOXaWAT,_BUFF&OaCOWaTIG,a|OP+DaRABBITaCATaDRAG@aCROCODI|
aWH&EaSNAILdKEaHORSEaRAMaGOATaSHEEPaM@KEYaROOST,aCHICK~aDOGaPIGaBO+aE|PH=TaOCTOPUSaSPIR&>HELLaBUGa=T
aH@EYBEEaLADY_BEET|aFISHaTROPIC&_FISHaBLOWFISHaTURT|aHATCH:G_CHICKaBABY_CHICKaFR@T-FAC:G_BABY_CHICK
aBIRDaP~GU:aKO&AaPOOD|aDROMED+Y_CAMELaBACTRI=_CAMELaDOLPH:aMOUS;FACEaCOW_FACEaTIG,_FACEaRABBIT_FACE
aCAT_FACEaDRAG@_FACEaSPOUT:G_WH&EaHORS;FACEaM@KEY_FACEaDOG_FACEaPIG_FACEaFROG_FACEaHAMST,_FACE
aWOLF_FACEaBE+_FACEaP=DA_FACEbIG_NOSEbAW_PR:TSaCHIPMUNKaEYESdb+aNOSEaMOUTHaT@GUE
aWHIT;UP_PO:T:G_BACKH=^:DEXgDOWN_PO:T:G_BACKH=^:DEXg|FT_PO:T:G_BACKH=^:DEXgR._PO:T:G_BACKH=^:DEX
aFISTE^H=D>IGNaWAV:G_H=D>IGNaOK_H=D>IGNaTHUMBS_UP>IGNhDOWN>IGNaCLAPP:G_H=DS>IGNaOP~_H=DS>IGNaCROWN
aWOM=S_HATaEYEGLASSESaNECKTIEaT-SHIRTaJE=SaDRESSaKIM@OaBIK:IaWOM=S_CLOTHESaPURSEaH=DBAGaPOUCH
aM=S>HOEaATH|TIC>HOEaHIGH-HEE|D>HOEaWOM=S>=D&hBOOTSaFOOTPR:TSaBUST_:>ILHOUETTEeS_:>ILHOUETTEbOYaGIRL
aM=aWOM=aFAMILYaM=_=^WOM=_HOLD:G_H=DSaTWO_M~_HOLD:G_H=DSeWOM~_HOLD:G_H=DSaPOLIC;OFFIC,
aWOM=$BUNNY_E+SaBRIDE$VEILaP,S@$BL@^HAIRaM=$GUA_PI_MAOjTURB=aOLD,_M=gWOM=aBABYaC@STRUCTI@_WORK,
aPR:CESSaJAP=ES;OGREjGOBL:aGHOSTaBABY_=GELaEXTRAT,RESTRI&_&I~a&I~_M@ST,aIMPaSKULL
a:FORMATI@_DESK_P,S@aGU+DSM=aD=C,aLIPSTICKaNAIL_POLISHaFAC;MASSAGEaHAIRCUTaB+B,_PO|aSYR:GEaPILL
aKISS_M+KaLOV;|TT,aR:GaGEM>T@EaKISSaBOUQUETaCOUP|$HE+TaWEDD:GaBEAT:G_HE+TbROK~_HE+TaTWO_HE+TS
aSP+KL:G_HE+TaGROW:G_HE+TaHE+T$+ROWaBLU;HE+TaGRE~_HE+TaYELLOW_HE+TaPURPL;HE+TaHE+T$RIBB@
aREVOLV:G_HE+TSaHE+T_DECORATI@aDIAM@D>HAPE$A_DOT_:SIDEaE|CTRIC_L._BULBa=G,>YMBOLaBOMBaS|EP:G>YMBOL
aCOLLISI@>YMBOLaSPLASH:G>WEAT>YMBOLaDROP|TbASH>YMBOLaPIL;OF_POOaF|XE^BICEPSaDIZZY>YMBOLaSPEECH_B&LO@
aTHOUGHT_B&LO@aWHIT;FLOW,aHUNDRE^PO:TS>YMBOLaM@EY_BAGaCURR~CY_EXCH=GEaHEAVY_DOLL+>IGNaCREDIT_C+D
aB=KNOTE$Y~>IGNoDOLL+>IGNoEURO>IGNoPOUND>IGNaM@EY$W:GSaCH+T$UPW+DS_TR~^=^Y~>IGNaSEATaP,S@&_COMPUT,
aBRIEFCASEaM:IDISCaFLOPPY_DISKaOPTIC&_DISCaDVDaFIL;FOLD,aOP~_FIL;FOLD,aPAGE$CURLfFAC:G_UPaC&~D+
aTE+-OFF_C&~D+aC+^:DEXbH+T$UPW+DS_TR~DlDOWNW+DS_TR~DaB+_CH+TaCLIPBO+DaPUSHP:aROUN^PUSHP:aPAP,CLIP
aSTRA._RUL,aTRI=GUL+_RUL,aBOOKM+K_TABSa|DG,aNOTEBOOKi$DECORATIV;COV,aCLOSE^BOOKaOP~_BOOKaGRE~_BOOK
aBLU;BOOKaOR=G;BOOKaBOOKSaNAM;BADGEaSCROLLaMEMOaTE|PH@;RECEIV,aPAG,aFAX_MACH:EaSATELLIT;=T~NA
aPUBLIC_ADDRESS_LOUDSPEAK,aCHE,:G_MEGAPH@EaOUTBOX_TRAYa:BOX_TRAYaPACKAGEaE-MAIL>YMBOLa:COM:G_~VELOPE
a~VELOPE$DOWNW+DS_+ROW_ABOVEaCLOSE^MAILBOX$LOW,E^FLAGuRAISE^FLAGaOP~_MAILBOX$RAISE^FLAGsLOW,E^FLAG
aPOSTBOXe&_HORNaNEWSPAP,aMOBIL;PH@Em$R.W+DS_+ROW_AT_|FTaVIBRATI@_MODEaMOBIL;PH@;OFFaNO_MOBIL;PH@ES
a=T~NA$B+SaCAM,Ag$FLASHaVIDEO_CAM,AaTE|VISI@aRADIOaVIDEOCASSETTEaFILM_PROJECTORaPORTABL;ST,EO
bRAY,_BEADSaTWISTE^R.W+DS_+ROWSaCLOCKWIS;R.W+DS_=^|FTW+DS_OP~_CIRCL;+ROWS
y_|FTW+DS_OP~_CIRCL;+ROWS$CIRC|^@;OV,LAYkDOWNW+DS_=^UPW+DS_OP~_CIRCL;+ROWS
a=TICLOCKWIS;DOWNW+DS_=^UPW+DS_OP~_CIRCL;+ROWSaLOW_BR.NESS>YMBOLaHIGH_BR.NESS>YMBOL
aSPEAK,$C=CELLATI@>TROKEhh$@;SOUN^WAVEnTHRE;SOUN^WAVESaBATT,YaE|CTRIC_PLUG
a|FT-PO:T:G_MAGNIFY:G_GLASSaR.-PO:T:G_MAGNIFY:G_GLASSaLOCK$:K_P~aCLOSE^LOCK$KEYaKEYaLOCKaOP~_LOCK
aBELLe$C=CELLATI@>TROKEbOOKM+KaL:K>YMBOLaRADIO_BUTT@aBACK$|FTW+DS_+ROW_ABOVEa~D$|FTW+DS_+ROW_ABOVE
a@$EXCLAMATI@_M+K$|FT_R._+ROW_ABOVEaSO@$R.W+DS_+ROW_ABOVEaTOP$UPW+DS_+ROW_ABOVEaNO_@;UND,_E.E~>YMBOL
aKEYCAP_T~a:PUT>YMBOL_FOR_LAT:_%L_|TT,SxSM&L_|TT,SrNUMB,SrSYMBOLSrLAT:_|TT,SaFIREaE|CTRIC_TORCH
aWR~CHaHAMM,aNUT_=^BOLTaHOCHOaPISTOLaMICROSCOPEaTE|SCOPEaCRYST&_B&LaSIX_PO:TED>T+$MIDDL;DOT
aJAP=ES;SYMBOL_FOR_BEG:N,aTRID~T_EMB|MaBLACK>QU+;BUTT@aWHIT;SQU+;BUTT@aL+G;RE^CIRC|gBLU;CIRC|
gOR=G;DIAM@DgBLU;DIAM@DaSM&L_OR=G;DIAM@DgBLU;DIAM@DaUP-PO:T:G_RE^TRI=G|aDOWN-PO:T:G_RE^TRI=G|
aUP-PO:T:G>M&L_RE^TRI=G|aDOWN-PO:T:G>M&L_RE^TRI=G|aLOW,_R.>HADOWE^WHIT;CIRC|
aUPP,_R.>HADOWE^WHIT;CIRC|aCIRC|^CROSS_POMMEEbROSS_POMMEE$H&F-CIRCL;BELOWm
aNOTCHE^|FT>EMICIRC|$THRE;DOTSiR.>EMICIRC|$THRE;DOTSaSYMBOL_FOR_M+KS_CHAPT,aWHIT;LAT:_CROSS
aHEAVY_LAT:_CROSSaCELTIC_CROSSaOM>YMBOLaDOV;OF_PEACEaKAABAaMOSQUEaSYNAGOGUEaM~ORAH$N:;BR=CHES
aBOWL_OF_HYGIEIAaCLOCK_FAC;@;OCLOCKlTWO_OCLOCKmHRE;OCLOCKlFOUR_OCLOCKmIV;OCLOCKlSIX_OCLOCK
mEV~_OCLOCKlE._OCLOCKlN:;OCLOCKlT~_OCLOCKlE|V~_OCLOCKlTWELV;OCLOCKl@E-THIRTYlTWO-THIRTYmHREE-THIRTY
lFOUR-THIRTYmIVE-THIRTYlSIX-THIRTYmEV~-THIRTYlE.-THIRTYlN:E-THIRTYlT~-THIRTYlE|V~-THIRTY
lTWELVE-THIRTYaR.>PEAK,n$@;SOUN^WAVEtTHRE;SOUN^WAVESaBULLHORNi$SOUN^WAVESaR:G:G_BELLaBOOKaC=D|
aM=TELPIEC;CLOCKaBLACK>KULL_=^CROSSB@ESaNO_PIRACYaHO|aM=_:_BUS:ESS>UIT_|VITAT:GaS|UTH_OR>PY
aD+K>UNGLASSESaSPID,g_WEBaJOYSTICKaM=_D=C:Ga|FT_H=^TE|PH@;RECEIV,aTE|PH@;RECEIV,$PAGE
aR._H=^TE|PH@;RECEIV,aWHIT;TOUCHT@;TE|PH@EaBLACK_TOUCHT@;TE|PH@EaTE|PH@;@_TOP_OF_MODEM
aCLAMSHELL_MOBIL;PH@EaBACK_OF_~VELOPEaSTAMPE^~VELOPEa~VELOPE$L.N:GaFLY:G_~VELOPE
aP~_OV,>TAMPE^~VELOPEaL:KE^PAP,CLIPSaBLACK_PUSHP:aLOW,_|FT_P~CILlB&LPO:T_P~lFOUNTA:_P~lPA:TBRUSH
lCRAY@bEFT_WRIT:G_H=DaTURNE^OK_H=D>IGNaRAISE^H=D$F:G,S>PLAYEDbEV,SE^RAISE^H=D$F:G,S>PLAYED
jTHUMBS_UP>IGNqDOWN>IGNjVICTORY_H=DjH=D$MIDDL;F:G,_EXT~DEDbAISE^H=D$P+T_BETWE~_MIDDL;=^R:G_F:G,S
aWHIT;DOWN_PO:T:G_|FT_H=^:DEXaSIDEWAYS_WHIT;|FT_PO:T:G_:DEXpR._PO:T:G_:DEXjBLACK_|FT_PO:T:G_:DEX
pR._PO:T:G_:DEXaBLACK_|FT_PO:T:G_BACKH=^:DEXgR._PO:T:G_BACKH=^:DEXaSIDEWAYS_WHIT;UP_PO:T:G_:DEX
pDOWN_PO:T:G_:DEXjBLACK_UP_PO:T:G_:DEXpDOWN_PO:T:G_:DEXaBLACK_UP_PO:T:G_BACKH=^:DEX
gDOWN_PO:T:G_BACKH=^:DEXgHE+TaDESKTOP_COMPUT,aKEYBO+^=^MOUSEaTHRE;NETWORKE^COMPUT,SaPR:T,
bOCKET_C&CULATORaBLACK_H+D>HELL_FLOPPY_DISKaWHIT;H+D>HELL_FLOPPY_DISKaSOFT>HELL_FLOPPY_DISK
aTAP;C+TRIDGEaWIRE^KEYBO+Da@;BUTT@_MOUSEaTWO_BUTT@_MOUSEbHRE;BUTT@_MOUSEbRACKB&LaOL^P,S@&_COMPUT,
aH+^DISKaSCRE~aPR:T,_IC@aFAX_IC@aOPTIC&_DISC_IC@aDOCUM~T$TEXTs_=^PICTUREoPICTUREaFRAME$PICTURElTI|S
l=_XaBLACK_FOLD,aFOLD,aOP~_FOLD,aC+^:DEX_DIVID,SfFIL;BOXaFIL;CAB:ETaEMPTY_NOTEk_PAGEnDaNOTEe_PAGEhD
aEMPTY_DOCUM~TgPAGEkSaDOCUM~TaPAGEeSaWASTEBASKETaSPIR&_NOT;PADhC&~D+_PADaDESKTOP_W:DOWaM:IMIZE
bAXIMIZEaOV,LAPaCLOCKWIS;R._=^|FT>EMICIRCL;+ROWSb=CELLATI@_Xa:CREAS;F@T>IZ;SYMBOL
aDECREAS;F@T>IZ;SYMBOLaCOMPRESSI@aOL^KEYaROL|D-UP_NEWSPAP,aPAGE$CIRC|^TEXTaSTOCK_CH+TaDAGG,_KNIFE
aLIPSaSPEAK:G_HEA^:>ILHOUETTEaTHRE;RAYS_ABOVElBELOWl|FTlR.a|FT>PEECH_BUBB|aR.>PEECH_BUBB|
aTWO>PEECH_BUBB|SbHRE;SPEECH_BUBB|Sa|FT_THOUGHT_BUBB|aR._THOUGHT_BUBB|a|FT_=G,_BUBB|aR._=G,_BUBB|
aMOO^BUBB|aL.N:G_MOO^BUBB|oaB&LOT_BOX$B&LOThSCRIPT_XhBOX$SCRIPT_XjLD>CRIPT_XjX$BOLD>CRIPT_X
aL._CHECK_M+KaB&LOT_BOX$BOL^CHECKaWORL^MAPaMOUNT_FUJIaTOKYO_TOW,aSTATU;OF_LIB,TYbILHOUETT;OF_JAP=
aMOYAIaGR:N:G_FACEn$SMIL:G_EYESaFACE$TE+S_OF_JOYaSMIL:G_FACE$OP~_MOUTHyOUTH_=D>MIL:G_EYES
yOUTH_=^COLD>WEATyOUTH_=^T.LY-CLOSE^EYESsH&OtORNSaW:K:G_FACEaSMIL:G_FACE$SMIL:G_EYES
aFAC;SAVOUR:G_DELICIOUS_FOODaRELIEVE^FACEaSMIL:G_FACE$HE+T-SHAPE^EYESsSUNGLASSESdRK:G_FACE
aNEUTR&_FACEaEXPRESSI@|SS_FACEaUNAMUSE^FACEaFACE$COLD>WEATaP~SIV;FACEaC@FUSE^FACEeOUNDE^FACE
aKISS:G_FACEaFAC;THROW:G_A_KISSaKISS:G_FACE$SMIL:G_EYESsCLOSE^EYESaFACE$STUCK-OUT_T@GUE
yU;=^W:K:G_EYEyU;=^T.LY-CLOSE^EYESaDISAPPO:TE^FACEaWORRIE^FACEa=GRY_FACEaPOUT:G_FACEaCRY:G_FACE
aP,SEV,:G_FACEaFACE$LOOK_OF_TRIUMPHaDISAPPO:TE^BUT_RELIEVE^FACEaFROWN:G_FACE$OP~_MOUTHa=GUISHE^FACE
aFE+FUL_FACEaWE+Y_FACEaS|EPY_FACEaTIRE^FACEaGRIMAC:G_FACEaLOUDLY_CRY:G_FACEaFACE$OP~_MOUTH
aHUSHE^FACEaFACE$OP~_MOUTH_=^COLD>WEATfSCREAM:G_:_FE+aAST@ISHE^FACEaFLUSHE^FACEaS|EP:G_FACE
aDIZZY_FACEaFAC;WITHOUT_MOUTHj_MEDIC&_MASKaGR:N:G_CAT_FACE$SMIL:G_EYESaCAT_FACE$TE+S_OF_JOY
aSMIL:G_CAT_FACE$OP~_MOUTHwHE+T-SHAPE^EYESaCAT_FACE$WRY>MI|aKISS:G_CAT_FACE$CLOSE^EYES
aPOUT:G_CAT_FACEaCRY:G_CAT_FACEaWE+Y_CAT_FACEaSL.LY_FROWN:G_FACEjSMIL:G_FACEaUPSIDE-DOWN_FACE
aFACE$ROLL:G_EYESkNO_GOO^GESTUREkOK_GESTUREaP,S@_BOW:G_DEEPLYaSEE-NO-EVIL_M@KEYaHE+-NO-EVIL_M@KEY
aSPEAK-NO-EVIL_M@KEYaHAPPY_P,S@_RAIS:G_@;H=DaP,S@_RAIS:G_BOTH_H=DS_:_CE|BRATI@hFROWN:G
hWITH_POUT:G_FACEmFOLDE^H=DSaNORTH_WEST_PO:T:G_|AFaSOUTH_WEST_PO:T:G_|AFaNORTH_EAST_PO:T:G_|AF
aSOUTH_EAST_PO:T:G_|AFaTURNE^NORTH_WEST_PO:T:G_|AFhSOUTH_WEST_PO:T:G_|AFhNORTH_EAST_PO:T:G_|AF
hSOUTH_EAST_PO:T:G_|AFaNORTH_WEST_PO:T:G_V:;|AFaSOUTH_WEST_PO:T:G_V:;|AFaNORTH_EAST_PO:T:G_V:;|AF
aSOUTH_EAST_PO:T:G_V:;|AFaHEAVY_NORTH_WEST_PO:T:G_V:;|AFgSOUTH_WEST_PO:T:G_V:;|AF
gNORTH_EAST_PO:T:G_V:;|AFgSOUTH_EAST_PO:T:G_V:;|AFaNORTH_WEST_PO:T:G_BUDaSOUTH_WEST_PO:T:G_BUD
aNORTH_EAST_PO:T:G_BUDaSOUTH_EAST_PO:T:G_BUDaHEAVY_NORTH_WEST_PO:T:G_BUDgSOUTH_WEST_PO:T:G_BUD
gNORTH_EAST_PO:T:G_BUDgSOUTH_EAST_PO:T:G_BUDbOLLOW_QUILT>QU+;ORNAM~TyM~T_:_BLACK>QU+E
aSOLI^QUILT>QU+;ORNAM~Ty~T_:_BLACK>QU+Ea|FTW+DS_ROCKETaUPW+DS_ROCKETaR.W+DS_ROCKETaDOWNW+DS_ROCKET
aSCRIPT_LIGATUR;ET_ORNAM~TaHEAVY>CRIPT_LIGATUR;ET_ORNAM~TaLIGATUR;OP~_ET_ORNAM~T
aHEAVY_LIGATUR;OP~_ET_ORNAM~TgAMP,S=^ORNAM~TaSWASH_AMP,S=^ORNAM~T
b=S-S,IF_HEAVY_DOUBL;TURNE^COMMA_QUOTATI@_M+K_ORNAM~TyCOMMA_QUOTATI@_M+K_ORNAM~T
rLOW_DOUBL;COMMA_QUOTATI@_M+K_ORNAM~TaHEAVY_:T,ROB=G_ORNAM~TaS=S-S,IF_:T,ROB=G_ORNAM~T
aHEAVY>=S-S,IF_:T,ROB=G_ORNAM~TaV,Y_HEAVY>OLIDUSlREV,S;SOLIDUSaCHECK,_BO+DaREV,S;CHECK,_BO+DbOCKET
aHELICOPT,aSTEAM_LOCOMOTIVEaRAILWAY_C+aHIGH-SPEE^TRA:q$BUL|T_NOSEaTRA:aMETROaL._RAILaSTATI@aTRAMe_C+
aBUSa@COM:G_BUSaTROL|YBUSaBUS>TOPaM:IBUSaAMBUL=CEaFIR;~G:EaPOLIC;C+a@COM:G_POLIC;C+aTAXIa@COM:G_TAXI
aAUTOMOBI|a@COM:G_AUTOMOBI|aRECREATI@&_VEHIC|aDELIV,Y_TRUCKa+TICULATE^LORRYaTRACTORaM@ORAIL
cUNTA:_RAILWAYaSUSP~SI@_RAILWAYaMOUNTA:_CAB|WAYaA,I&_TRAMWAYaSHIPaROWBOATaSPEEDBOAT
aHORIZ@T&_TRAFFIC_L.aV,TIC&_TRAFFIC_L.aC@STRUCTI@>IGNaPOLIC;C+S_REVOLV:G_L.aTRI=GUL+_FLAG_@_POST
aDOORaNO_~TRY>IGNaSMOK:G>YMBOLaNO>MOK:G>YMBOLaPUT_LITT,_:_ITS_PLAC;SYMBOLaDO_NOT_LITT,>YMBOL
aPOTABL;WAT,>YMBOLaN@-POTABL;WAT,>YMBOLaBICYC|aNO_BICYC|SaBICYCLISTaMOUNTA:_BICYCLISTaPEDESTRI=
aNO_PEDESTRI=SaCHILDR~_CROSS:GaM~S>YMBOLaWOM~S>YMBOLaRESTROOMaBABY>YMBOLaTOI|TaWAT,_CLOSETaSHOW,
aBATHeTUBaPASSPORT_C@TROLaCUSTOMSaBAGGAG;CLAIMa|FT_LUGGAGEaTRI=G|$ROUNDE^CORN,SaPROHIBITED>IGN
aCIRC|^:FORMATI@>OURCEaBOYS>YMBOLaGIRLS>YMBOLaCOUCH_=^LAMPaS|EP:G_ACCOMMODATI@bHOPP:G_BAGS
aBELLHOP_BELLcDaPLAC;OF_WORSHIPaOCTAG@&>IGNaSHOPP:G_TROL|YbTUPAaPAGODAaH:DU_TEMP|bUTaE|VATOR
z1F6DDaPLAYGROUND>LIDEaWHEELaR:G_BUOYaHAMM,_=^WR~CHaSHIELDaOIL_DRUMaMOTORWAYaRAILWAY_TRACK
aMOTOR_BOATaUP-PO:T:G_MILIT+Y_AIRPL=EmAIRPL=EmSM&L_AIRPL=EaSM&L_AIRPL=EaNORTHEAST-PO:T:G_AIRPL=E
aAIRPL=;DEP+TUREj+RIV:Gz1F6F0aSATELLITEa@COM:G_FIR;~G:EaDIESEL_LOCOMOTIVEaPASS~G,>HIPaSCOOT,
aMOTOR>COOT,aC=OEaS|DaFLY:G>AUC,aSKATEBO+DaAUTO_RICKSHAWaPICKUP_TRUCKaROLL,>KATE
z1F700a&CHEMIC&>YMBOL_FOR_QU:TESS~CEwAIRwFIREwE+THwWAT,wAQUAFORTISyUA_REGIAyUA_REGIA-2yUA_VITAE
yUA_VITAE-2wV:EG+yNEG+-2yNEG+-3wSULFURwPHILOSOPH,S>ULFURwBLACK>ULFURwM,CURY>UBLIMATE
yRCURY>UBLIMATE-2yRCURY>UBLIMATE-3wC:NAB+wS&TwNITREwVITRIOLyTRIOL-2wROCK>&TyCK>&T-2wGOLDwSILV,
wIR@_OREy@_ORE-2wCROCUS_OF_IR@wREGULUS_OF_IR@wCOPP,_OREwIR@-COPP,_OREwSUBLIMAT;OF_COPP,
wCROCUS_OF_COPP,yOCUS_OF_COPP,-2xOPP,_=TIM@IATEwS&T_OF_COPP,_=TIM@IATExUBLIMAT;OF>&T_OF_COPP,
wV,DIGRISwT:_OREw|A^OREw=TIM@Y_OREwSUBLIMAT;OF_=TIM@Yx&T_OF_=TIM@YxUBLIMAT;OF>&T_OF_=TIM@Y
wV:EG+_OF_=TIM@YwREGULUS_OF_=TIM@YyGULUS_OF_=TIM@Y-2yGULUSyGULUS-2yGULUS-3yGULUS-4w&K&IyK&I-2
wM+CASITEwS&-AMM@IACw+S~ICwRE&G+y&G+-2wAURIPIGM~TwBISMUTH_OREwT+T+yRT+-2wQUICK_LIMEwBORAXyRAX-2
yRAX-3w&UMwOILwSPIRITwT:CTUREwGUMwWAXwPOWD,wC&XwTUTTYwCAPUT_MORTUUMwSCEPT,_OF_JOVEwCADUCEUSwTRID~T
wST+RE^TRID~TwLODEST@EwSOAPwUR:EwHORS;DUNGwASHESwPOT_ASHESwBRICKwPOWD,E^BRICKwAM&GAM
wSTRATUM>UP,>TRATUMyRATUM>UP,>TRATUM-2xUBLIMATI@wPRECIPITATEwDISTILLySSOLVEySSOLVE-2wPURIFY
yTREFACTI@wCRUCIB|yUCIB|-2yUCIB|-3yUCIB|-4yUCIB|-5w&EMBICwBATH_OF_M+YyTH_OF_VAPOURSwRETORTwHOURwN.
wDAY-N.wM@THwH&F_DRAMyLF_OUNCEz1F780aBLACK_|FT-PO:T:G_ISOSCE|S_R._TRI=G|
gUP-PO:T:G_ISOSCE|S_R._TRI=G|gR.-PO:T:G_ISOSCE|S_R._TRI=G|gDOWN-PO:T:G_ISOSCE|S_R._TRI=G|
gSL.LY>M&L_CIRC|aMEDIUM_BOL^WHIT;CIRC|aBOL^WHIT;CIRC|aHEAVY_WHIT;CIRC|aV,Y_HEAVY_WHIT;CIRC|
aEXTREMELY_HEAVY_WHIT;CIRC|aWHIT;CIRCL;C@TA::G_BLACK>M&L_CIRC|aROUN^T+GETaBLACK_T:Y>QU+E
gSL.LY>M&L>QU+EaL._WHIT;SQU+EaMEDIUM_WHIT;SQU+EaBOL^WHIT;SQU+EaHEAVY_WHIT;SQU+EaV,Y_HEAVY_WHIT;SQU+E
aEXTREMELY_HEAVY_WHIT;SQU+EaWHIT;SQU+;C@TA::G_BLACK_V,Y>M&L>QU+EyBLACK_MEDIUM>QU+EaSQU+;T+GET
aBLACK_T:Y_DIAM@DgV,Y>M&L_DIAM@DgMEDIUM>M&L_DIAM@DaWHIT;DIAM@^C@TA::G_BLACK_V,Y>M&L_DIAM@D
y_BLACK_MEDIUM_DIAM@DaDIAM@^T+GETaBLACK_T:Y_LOZ~GEgV,Y>M&L_LOZ~GEgMEDIUM>M&L_LOZ~GE
aWHIT;LOZ~G;C@TA::G_BLACK>M&L_LOZ~GEaTH:_GREEK_CROSSaL._GREEK_CROSSaMEDIUM_GREEK_CROSS
aBOL^GREEK_CROSSaV,Y_BOL^GREEK_CROSSfHEAVY_GREEK_CROSSaEXTREMELY_HEAVY_GREEK_CROSSaTH:>&TIRE
aL.>&TIREaMEDIUM>&TIREaBOLD>&TIREaHEAVY>&TIREaV,Y_HEAVY>&TIREaEXTREMELY_HEAVY>&TIRE
aL._FIV;SPOKE^AST,ISKaMEDIUM_FIV;SPOKE^AST,ISKaBOL^FIV;SPOKE^AST,ISKaHEAVY_FIV;SPOKE^AST,ISK
aV,Y_HEAVY_FIV;SPOKE^AST,ISKaEXTREMELY_HEAVY_FIV;SPOKE^AST,ISKaL.>IX>POKE^AST,ISK
aMEDIUM>IX>POKE^AST,ISKaBOLD>IX>POKE^AST,ISKaHEAVY>IX>POKE^AST,ISKaV,Y_HEAVY>IX>POKE^AST,ISK
aEXTREMELY_HEAVY>IX>POKE^AST,ISKaL._E.>POKE^AST,ISKaMEDIUM_E.>POKE^AST,ISKaBOL^E.>POKE^AST,ISK
aHEAVY_E.>POKE^AST,ISKaV,Y_HEAVY_E.>POKE^AST,ISKaL._THRE;PO:TE^BLACK>T+aMEDIUM_THRE;PO:TE^BLACK>T+
aTHRE;PO:TE^BLACK>T+aMEDIUM_THRE;PO:TE^P:WHEEL>T+aL._FOUR_PO:TE^BLACK>T+aMEDIUM_FOUR_PO:TE^BLACK>T+
aFOUR_PO:TE^BLACK>T+aMEDIUM_FOUR_PO:TE^P:WHEEL>T+aREV,S;L._FOUR_PO:TE^P:WHEEL>T+
aL._FIV;PO:TE^BLACK>T+aHEAVY_FIV;PO:TE^BLACK>T+aMEDIUM>IX_PO:TE^BLACK>T+aHEAVY>IX_PO:TE^BLACK>T+
aSIX_PO:TE^P:WHEEL>T+aMEDIUM_E._PO:TE^BLACK>T+aHEAVY_E._PO:TE^BLACK>T+aV,Y_HEAVY_E._PO:TE^BLACK>T+
aHEAVY_E._PO:TE^P:WHEEL>T+aL._TWELV;PO:TE^BLACK>T+aHEAVY_TWELV;PO:TE^BLACK>T+vP:WHEEL>T+
aCIRC|^TRI=G|aNEGATIV;CIRC|^TRI=G|aCIRC|D>QU+EaNEGATIV;CIRC|D>QU+Ez1F7E0aL+G;OR=G;CIRC|gYELLOW_CIRC|
gGRE~_CIRC|gPURPL;CIRC|gBROWN_CIRC|gRED>QU+EgBLU;SQU+EgOR=G;SQU+EgYELLOW>QU+EgGRE~>QU+EgPURPL;SQU+E
gBROWN>QU+Ez1F7F0aHEAVY_EQU&S>IGNz1F800a|FTW+DS_+ROW$SM&L_TRI=GL;+ROWHEAD
aUPW+DS_+ROW$SM&L_TRI=GL;+ROWHEADaR.W+DS_+ROW$SM&L_TRI=GL;+ROWHEAD
aDOWNW+DS_+ROW$SM&L_TRI=GL;+ROWHEADa|FTW+DS_+ROW$MEDIUM_TRI=GL;+ROWHEAD
aUPW+DS_+ROW$MEDIUM_TRI=GL;+ROWHEADaR.W+DS_+ROW$MEDIUM_TRI=GL;+ROWHEAD
aDOWNW+DS_+ROW$MEDIUM_TRI=GL;+ROWHEADa|FTW+DS_+ROW$L+G;TRI=GL;+ROWHEAD
aUPW+DS_+ROW$L+G;TRI=GL;+ROWHEADaR.W+DS_+ROW$L+G;TRI=GL;+ROWHEADaDOWNW+DS_+ROW$L+G;TRI=GL;+ROWHEAD
z1F810a|FTW+DS_+ROW$SM&L_EQUILAT,&_+ROWHEADaUPW+DS_+ROW$SM&L_EQUILAT,&_+ROWHEAD
aR.W+DS_+ROW$SM&L_EQUILAT,&_+ROWHEADaDOWNW+DS_+ROW$SM&L_EQUILAT,&_+ROWHEAD
a|FTW+DS_+ROW$EQUILAT,&_+ROWHEADaUPW+DS_+ROW$EQUILAT,&_+ROWHEADaR.W+DS_+ROW$EQUILAT,&_+ROWHEAD
aDOWNW+DS_+ROW$EQUILAT,&_+ROWHEADaHEAVY_|FTW+DS_+ROW$EQUILAT,&_+ROWHEAD
gUPW+DS_+ROW$EQUILAT,&_+ROWHEADgR.W+DS_+ROW$EQUILAT,&_+ROWHEADgDOWNW+DS_+ROW$EQUILAT,&_+ROWHEAD
g|FTW+DS_+ROW$L+G;EQUILAT,&_+ROWHEADgUPW+DS_+ROW$L+G;EQUILAT,&_+ROWHEAD
gR.W+DS_+ROW$L+G;EQUILAT,&_+ROWHEADgDOWNW+DS_+ROW$L+G;EQUILAT,&_+ROWHEAD
a|FTW+DS_TRI=G|-HEADE^+ROW$N+ROW>HAFTaUPW+DS_TRI=G|-HEADE^+ROW$N+ROW>HAFT
aR.W+DS_TRI=G|-HEADE^+ROW$N+ROW>HAFTaDOWNW+DS_TRI=G|-HEADE^+ROW$N+ROW>HAFT
a|FTW+DS_TRI=G|-HEADE^+ROW$MEDIUM>HAFTaUPW+DS_TRI=G|-HEADE^+ROW$MEDIUM>HAFT
aR.W+DS_TRI=G|-HEADE^+ROW$MEDIUM>HAFTaDOWNW+DS_TRI=G|-HEADE^+ROW$MEDIUM>HAFT
a|FTW+DS_TRI=G|-HEADE^+ROW$BOLD>HAFTaUPW+DS_TRI=G|-HEADE^+ROW$BOLD>HAFT
aR.W+DS_TRI=G|-HEADE^+ROW$BOLD>HAFTaDOWNW+DS_TRI=G|-HEADE^+ROW$BOLD>HAFT
a|FTW+DS_TRI=G|-HEADE^+ROW$HEAVY>HAFTaUPW+DS_TRI=G|-HEADE^+ROW$HEAVY>HAFT
aR.W+DS_TRI=G|-HEADE^+ROW$HEAVY>HAFTaDOWNW+DS_TRI=G|-HEADE^+ROW$HEAVY>HAFT
a|FTW+DS_TRI=G|-HEADE^+ROW$V,Y_HEAVY>HAFTaUPW+DS_TRI=G|-HEADE^+ROW$V,Y_HEAVY>HAFT
aR.W+DS_TRI=G|-HEADE^+ROW$V,Y_HEAVY>HAFTaDOWNW+DS_TRI=G|-HEADE^+ROW$V,Y_HEAVY>HAFT
a|FTW+DS_F:G,-POST_+ROWaUPW+DS_F:G,-POST_+ROWaR.W+DS_F:G,-POST_+ROWaDOWNW+DS_F:G,-POST_+ROW
a|FTW+DS>QU+E^+ROWaUPW+DS>QU+E^+ROWaR.W+DS>QU+E^+ROWaDOWNW+DS>QU+E^+ROWa|FTW+DS_COMPRESSE^+ROW
aUPW+DS_COMPRESSE^+ROWaR.W+DS_COMPRESSE^+ROWaDOWNW+DS_COMPRESSE^+ROWa|FTW+DS_HEAVY_COMPRESSE^+ROW
aUPW+DS_HEAVY_COMPRESSE^+ROWaR.W+DS_HEAVY_COMPRESSE^+ROWaDOWNW+DS_HEAVY_COMPRESSE^+ROW
a|FTW+DS_HEAVY_+ROWaUPW+DS_HEAVY_+ROWaR.W+DS_HEAVY_+ROWaDOWNW+DS_HEAVY_+ROW
z1F850a|FTW+DS>=S-S,IF_+ROWaUPW+DS>=S-S,IF_+ROWaR.W+DS>=S-S,IF_+ROWaDOWNW+DS>=S-S,IF_+ROW
aNORTH_WEST>=S-S,IF_+ROWgEAST>=S-S,IF_+ROWaSOUTH_EAST>=S-S,IF_+ROWgWEST>=S-S,IF_+ROW
a|FT_R.>=S-S,IF_+ROWaUP_DOWN>=S-S,IF_+ROWz1F860aWIDE-HEADE^|FTW+DS_L._B+B_+ROWmUPW+DS_L._B+B_+ROW
mR.W+DS_L._B+B_+ROWmDOWNW+DS_L._B+B_+ROWmNORTH_WEST_L._B+B_+ROWsEAST_L._B+B_+ROW
mSOUTH_EAST_L._B+B_+ROWsWEST_L._B+B_+ROWm|FTW+DS_B+B_+ROWmUPW+DS_B+B_+ROWmR.W+DS_B+B_+ROW
mDOWNW+DS_B+B_+ROWmNORTH_WEST_B+B_+ROWsEAST_B+B_+ROWmSOUTH_EAST_B+B_+ROWsWEST_B+B_+ROW
m|FTW+DS_MEDIUM_B+B_+ROWmUPW+DS_MEDIUM_B+B_+ROWmR.W+DS_MEDIUM_B+B_+ROWmDOWNW+DS_MEDIUM_B+B_+ROW
mNORTH_WEST_MEDIUM_B+B_+ROWsEAST_MEDIUM_B+B_+ROWmSOUTH_EAST_MEDIUM_B+B_+ROWsWEST_MEDIUM_B+B_+ROW
m|FTW+DS_HEAVY_B+B_+ROWmUPW+DS_HEAVY_B+B_+ROWmR.W+DS_HEAVY_B+B_+ROWmDOWNW+DS_HEAVY_B+B_+ROW
mNORTH_WEST_HEAVY_B+B_+ROWsEAST_HEAVY_B+B_+ROWmSOUTH_EAST_HEAVY_B+B_+ROWsWEST_HEAVY_B+B_+ROW
m|FTW+DS_V,Y_HEAVY_B+B_+ROWmUPW+DS_V,Y_HEAVY_B+B_+ROWmR.W+DS_V,Y_HEAVY_B+B_+ROW
mDOWNW+DS_V,Y_HEAVY_B+B_+ROWmNORTH_WEST_V,Y_HEAVY_B+B_+ROWsEAST_V,Y_HEAVY_B+B_+ROW
mSOUTH_EAST_V,Y_HEAVY_B+B_+ROWsWEST_V,Y_HEAVY_B+B_+ROWz1F890a|FTW+DS_TRI=GL;+ROWHEAD
aUPW+DS_TRI=GL;+ROWHEADaR.W+DS_TRI=GL;+ROWHEADaDOWNW+DS_TRI=GL;+ROWHEAD
a|FTW+DS_WHIT;+ROW_WITH:_TRI=GL;+ROWHEADaUPW+DS_WHIT;+ROW_WITH:_TRI=GL;+ROWHEAD
aR.W+DS_WHIT;+ROW_WITH:_TRI=GL;+ROWHEADaDOWNW+DS_WHIT;+ROW_WITH:_TRI=GL;+ROWHEAD
a|FTW+DS_+ROW$NOTCHE^TAILaUPW+DS_+ROW$NOTCHE^TAILaR.W+DS_+ROW$NOTCHE^TAILaDOWNW+DS_+ROW$NOTCHE^TAIL
aHEAVY_+ROW>HAFT_WIDTH_@EyTWO_THIRDSy@;H&Fy@;THIRDa|FTW+DS_BOTTOM-SHADE^WHIT;+ROW
aR.W+DS_BOTTOM>HADE^WHIT;+ROWa|FTW+DS_TOP>HADE^WHIT;+ROWaR.W+DS_TOP>HADE^WHIT;+ROW
a|FTW+DS_|FT-SHADE^WHIT;+ROWaR.W+DS_R.-SHADE^WHIT;+ROWa|FTW+DS_R.-SHADE^WHIT;+ROW
aR.W+DS_|FT-SHADE^WHIT;+ROWa|FTW+DS_BACK-TILTED>HADOWE^WHIT;+ROWaR.W+DS_BACK-TILTED>HADOWE^WHIT;+ROW
a|FTW+DS_FR@T-TILTED>HADOWE^WHIT;+ROWaR.W+DS_FR@T-TILTED>HADOWE^WHIT;+ROWaWHIT;+ROW>HAFT_WIDTH_@E
yTWO_THIRDSz1F8B0a+ROW_PO:T:G_UPW+DS_TH~_NORTH_WESTpR.W+DS_TH~_CURV:G>OUTH_WEST
z1F900aCIRC|^CROSS<EE$FOUR_DOTSyH_TWO_DOTSua|FT_H&F_CIRC|$FOUR_DOTSwTHRE;DOTSxWO_DOTSwDOTq
aDOWNW+^FAC:G_HOOKqNOTCHE^HOOKqHOOK$DOTqNOTCHE^HOOK$DOTaP:CHE^F:G,SaWHIT;HE+TaBROWN_HE+TaP:CH:G_H=D
aZIPP,-MOUTH_FACEaM@EY-MOUTH_FACEaFACE$TH,MOMET,aN,^FACEaTH:K:G_FACEaFACE$HEAD-B=DAGEaROBOT_FACE
aHUGG:G_FACEaSIGN_OF_TH;HORNSaC&L_M;H=DaRAISE^BACK_OF_H=Da|FT-FAC:G_FISTaR.-FAC:G_FISTaH=DSHAKE
e$:DEX_=^MIDDL;F:G,S_CROSSEDaI_LOV;YOU_H=D>IGNaFACE$COWBOY_HATaCLOWN_FACEaNAUSEATE^FACE
aROLL:G_@_TH;FLOOR_LAUGH:GaDROOL:G_FACEaLY:G_FACEaFAC;P&MaSNEEZ:G_FACEaFACE$@;EYEBROW_RAISED
aGR:N:G_FACE$ST+_EYESt@;L+G;=^@;SM&L_EYEaFACE$F:G,_COV,:G_CLOSE^LIPS
aS,IOUS_FACE$SYMBOLS_COV,:G_MOUTHbMIL:G_FACE$SMIL:G_EYES_=^H=^COV,:G_MOUTHaFACE$OP~_MOUTH_VOMIT:G
aSHOCKE^FACE$EXPLOD:G_HEADaPREGN=T_WOM=aBREAST-FEED:GaP&MS_UP_TOGETH,aSELFIEaPR:CEaM=_:_TUXEDO
bOTH,_CHRISTMASaSHRUGaP,S@_DO:G_C+TWHEELaJUGGL:GaF~C,aMOD,N_P~TATHL@aWRESTL,SbAT,_POLOaH=DB&L
aDIV:G_MASKaWILTE^FLOW,aDRUM$DRUMSTICKSaCL:K:G_GLASSESaTUMBL,_GLASSaSPO@aGO&_NETaRIF|
aFIRST_PLAC;MED&aSEC@^PLAC;MED&aTHIR^PLAC;MED&aBOX:G_GLOVEaM+TI&_+TS_UNIFORMaCURL:G>T@E
aLACROSS;STICK_=^B&LaSOFTB&LaFLY:G_DISCaCROISS=TaAVOCADOaCUCUMB,aBAC@aPOTATOaC+ROTaBAGUETT;BREAD
aGRE~>&ADaSH&LOW_P=_OF_FOODbTUFFE^FLATBREADaEGGaGLASS_OF_MILKaPE=UTSaKIWIFRUITaP=CAKESaDUMPL:G
aFORTUN;COOKIEaTAKEOUT_BOXaCHOPSTICKSaBOWL$SPO@aCUP$STRAWbOC@UTaBROCCOLIaPIEbRETZELaCUT_OF_MEAT
aS=DWICHaC=NE^FOODa|AFY_GRE~aM=GObO@_CAKEaBAGELaSMIL:G_FACE$SMIL:G_EYES_=^THRE;HE+TSaYAWN:G_FACE
aSMIL:G_FACE$TE+aFACE$P+TY_HORN_=^P+TY_HATkUNEV~_EYES_=^WAVY_MOUTHaOV,HEATE^FACEaFREEZ:G_FACEaN:JA
aDISGUISE^FACEaFAC;HOLD:G_BACK_TE+SfWITH_P|AD:G_EYESaS+IaLAB_COATaGOGG|SaHIK:G_BOOTaFLAT>HOEaCRAB
aLI@_FACEaSCORPI@aTURKEYaUNICORN_FACEaEAG|aDUCKaBATaSH+KaOWLaFOX_FACEaBUTT,FLYaDE,aGORILLAaLIZ+D
aRH:OC,OSaSHRIMPbQUIDaGIRAFF;FACEaZEBRA_FACEaHEDGEHOGaSAUROPODaT-REXaCRICKETaK=G+OOaLLAMAaPEACOCK
aHIPPOPOTAMUSaP+ROTaRACCO@aLOBST,aMOSQUITObICROBEaBADG,aSW=aMAMMOTHaDODOaSLOTHaOTT,bR=GUT=aSKUNK
aFLAM:GOaOYST,aBEAV,bIS@aSE&aGUID;DOGaPROB:G_C=EaEMOJI_COMP@~T_RE^HAIRqCURLY_HAIRqB&DqWHIT;HAIRaB@E
a|GaFOOTaTOOTHaSUP,H,OfVILLA:bAFETY_VESTaE+$HE+:G_AIDaMOTORIZE^WHEELCHAIRb=U&_WHEELCHAIRbECH=IC&_+M
l|GaCHEES;WEDGEbUPCAKEaS&T>HAK,aBEV,AG;BOXaG+LICa@I@aF&AFELaWAFF|aBUTT,aMAT;DR:KaIC;CUBEaBUBBL;TEA
aTROLLaST=D:G_P,S@aKNEEL:G_P,S@aDEAF_P,S@aFACE$M@OC|aADULTaCHILDaOLD,_ADULTaBE+DE^P,S@aP,S@$HEADSC+F
h:>TEAMY_ROOMhCLIMB:Gh:_LOTUS_POSITI@aMAGEaFAIRYaVAMPIREaM,P,S@aELFaG~IEaZOMBIEaBRA:aOR=G;HE+T
aBIL|^CAPaSC+FaGLOVESaCOATaSOCKSaRE^GIFT_~VELOPEaFIRECRACK,aJIGSAW_PUZZL;PIECEaTEST_TUBEaPETRI_DISH
aDNA_DOUBL;HELIXaCOMPASSaABACUSaFIR;EXT:GUISH,aTOOLBOXaBRICKaMAGNETaLUGGAGEbOTI@_BOTT|
aSPOOL_OF_THREADaB&L_OF_Y+NaSAFETY_P:aTEDDY_BE+aBROOMbASKETaROLL_OF_PAP,aB+_OF>OAPaSP@GEaRECEIPT
aNAZ+_AMU|TbEUTR&_CHESS_K:GoQUE~oROOKoBISHOPoKN.oPAWNaWHIT;CHESS_KN._ROTATE^FORTY-FIV;DEGREES
aBLACK_CHESS_KN._ROTATE^FORTY-FIV;DEGREESaNEUTR&_CHESS_KN._ROTATE^FORTY-FIV;DEGREES
aWHIT;CHESS_K:G_ROTATE^N:ETY_DEGREESmQUE~_ROTATE^N:ETY_DEGREESmROOK_ROTATE^N:ETY_DEGREES
mBISHOP_ROTATE^N:ETY_DEGREESmKN._ROTATE^N:ETY_DEGREESmPAWN_ROTATE^N:ETY_DEGREES
aBLACK_CHESS_K:G_ROTATE^N:ETY_DEGREESmQUE~_ROTATE^N:ETY_DEGREESmROOK_ROTATE^N:ETY_DEGREES
mBISHOP_ROTATE^N:ETY_DEGREESmKN._ROTATE^N:ETY_DEGREESmPAWN_ROTATE^N:ETY_DEGREES
aNEUTR&_CHESS_K:G_ROTATE^N:ETY_DEGREESoQUE~_ROTATE^N:ETY_DEGREESoROOK_ROTATE^N:ETY_DEGREES
oBISHOP_ROTATE^N:ETY_DEGREESoKN._ROTATE^N:ETY_DEGREESoPAWN_ROTATE^N:ETY_DEGREES
aWHIT;CHESS_KN._ROTATE^@;HUNDRE^THIRTY-FIV;DEGREES
aBLACK_CHESS_KN._ROTATE^@;HUNDRE^THIRTY-FIV;DEGREES
aNEUTR&_CHESS_KN._ROTATE^@;HUNDRE^THIRTY-FIV;DEGREESaWHIT;CHESS_TURNE^K:GtQUE~tROOKtBISHOPtKN.tPAWN
aBLACK_CHESS_TURNE^K:GtQUE~tROOKtBISHOPtKN.tPAWNaNEUTR&_CHESS_TURNE^K:GvQUE~vROOKvBISHOPvKN.vPAWN
aWHIT;CHESS_KN._ROTATE^TWO_HUNDRE^TW~TY-FIV;DEGREES
aBLACK_CHESS_KN._ROTATE^TWO_HUNDRE^TW~TY-FIV;DEGREES
aNEUTR&_CHESS_KN._ROTATE^TWO_HUNDRE^TW~TY-FIV;DEGREES
aWHIT;CHESS_K:G_ROTATE^TWO_HUNDRED>EV~TY_DEGREESmQUE~_ROTATE^TWO_HUNDRED>EV~TY_DEGREES
mROOK_ROTATE^TWO_HUNDRED>EV~TY_DEGREESmBISHOP_ROTATE^TWO_HUNDRED>EV~TY_DEGREES
mKN._ROTATE^TWO_HUNDRED>EV~TY_DEGREESmPAWN_ROTATE^TWO_HUNDRED>EV~TY_DEGREES
aBLACK_CHESS_K:G_ROTATE^TWO_HUNDRED>EV~TY_DEGREESmQUE~_ROTATE^TWO_HUNDRED>EV~TY_DEGREES
mROOK_ROTATE^TWO_HUNDRED>EV~TY_DEGREESmBISHOP_ROTATE^TWO_HUNDRED>EV~TY_DEGREES
mKN._ROTATE^TWO_HUNDRED>EV~TY_DEGREESmPAWN_ROTATE^TWO_HUNDRED>EV~TY_DEGREES
aNEUTR&_CHESS_K:G_ROTATE^TWO_HUNDRED>EV~TY_DEGREESoQUE~_ROTATE^TWO_HUNDRED>EV~TY_DEGREES
oROOK_ROTATE^TWO_HUNDRED>EV~TY_DEGREESoBISHOP_ROTATE^TWO_HUNDRED>EV~TY_DEGREES
oKN._ROTATE^TWO_HUNDRED>EV~TY_DEGREESoPAWN_ROTATE^TWO_HUNDRED>EV~TY_DEGREES
aWHIT;CHESS_KN._ROTATE^THRE;HUNDRE^FIFTE~_DEGREESaBLACK_CHESS_KN._ROTATE^THRE;HUNDRE^FIFTE~_DEGREES
aNEUTR&_CHESS_KN._ROTATE^THRE;HUNDRE^FIFTE~_DEGREESaWHIT;CHESS_EQUIHOPP,aBLACK_CHESS_EQUIHOPP,
aNEUTR&_CHESS_EQUIHOPP,aWHIT;CHESS_EQUIHOPP,_ROTATE^N:ETY_DEGREES
aBLACK_CHESS_EQUIHOPP,_ROTATE^N:ETY_DEGREESaNEUTR&_CHESS_EQUIHOPP,_ROTATE^N:ETY_DEGREES
aWHIT;CHESS_KN.-QUE~tROOKtBISHOPaBLACK_CHESS_KN.-QUE~tROOKtBISHOPz1FA60aXI=GQI_RE^G~,&mM=D+:mE|PH=T
mHORSEmCH+IOTn=N@mSOLDI,iBLACK_G~,&oM=D+:oE|PH=ToHORSEoCH+IOTp=N@oSOLDI,z1FA70aB&|T>HOES
a@E-PIEC;SWIMSUITaBRIEFSaSHORTSaTH@G>=D&z1FA78aDROP_OF_BLOODaADHESIV;B=DAGEaSTETHOSCOPEaX-RAYaCRUTCH
z1FA80aYO-YOaKITEaP+ACHUTEaBOOM,=GaMAGIC_W=DaP:ATAaNEST:G_DOLLSz1FA90aR:GE^PL=ETaCHAIRaRAZORaAXE
aDIYA_LAMPaB=JOaMILIT+Y_HELMETaACCORDI@aL@G_DRUMaCO:b+P~TRY>AWaSCREWDRIV,aLADD,aHOOKaMIRRORaW:DOW
aPLUNG,aSEW:G_NEED|aKNOTaBUCKETaMOUS;TRAPaTOOTHBRUSHaHEADST@EaPLAC+DaROCKaMIRROR_B&L
aID~TIFICATI@_C+DaLOW_BATT,YaHAMSAz1FAB0aFLYaWORMaBEET|aCOCKROACHaPOTTE^PL=TaWOODaFEATH,aLOTUSaCOR&
aEMPTY_NESTaNEST$EGGSz1FAC0a=ATOMIC&_HE+TaLUNGSaPEOPL;HUGG:GbREGN=T_M=jP,S@b,S@$CROWN
z1FAD0aBLUEB,RIESbELL_PEPP,aOLIVEaFLATBREADaTAM&EaF@DUEaTEAPOTaPOUR:G_LIQUIDaBE=SaJ+
z1FAE0aMELT:G_FACEaS&UT:G_FACEaFACE$OP~_EYES_=^H=^OV,_MOUTHkPEEK:G_EYEkDIAG@&_MOUTHaDOTTE^L:;FACE
aBIT:G_LIPbUBB|Sz1FAF0aH=D$:DEX_F:G,_=^THUMB_CROSSEDaR.W+DS_H=Da|FTW+DS_H=DaP&M_DOWN_H=DfUP_H=D
a:DEX_PO:T:G_AT_TH;VIEW,aHE+T_H=DSz1FB00aBLOCK>EXT=T-1o2o12o3o13o23o123o4o14o24o124o34o134o234o1234
o5o15o25o125o35o235o1235o45o145o245o1245o345o1345o2345o12345o6o16o26o126o36o136o236o1236o46o146p246
o346o1346o2346o12346o56o156o256o1256o356o1356o2356o12356o456o1456o2456o12456o3456o13456o23456
aLOW,_|FT_BLOCK_DIAG@&_LOW,_MIDDL;|FT_TO_LOW,_C~TREyL_LOW,_MIDDL;|FT_TO_LOW,_R.
yL_UPP,_MIDDL;|FT_TO_LOW,_C~TREyL_UPP,_MIDDL;|FT_TO_LOW,_R.yL_UPP,_|FT_TO_LOW,_C~TRE
gR._BLOCK_DIAG@&_UPP,_MIDDL;|FT_TO_UPP,_C~TREy&_UPP,_MIDDL;|FT_TO_UPP,_R.
y&_LOW,_MIDDL;|FT_TO_UPP,_C~TREy&_LOW,_MIDDL;|FT_TO_UPP,_R.y&_LOW,_|FT_TO_UPP,_C~TRE
y&_LOW,_MIDDL;|FT_TO_UPP,_MIDDL;R.y&_LOW,_C~TR;TO_LOW,_MIDDL;R.y&_LOW,_|FT_TO_LOW,_MIDDL;R.
y&_LOW,_C~TR;TO_UPP,_MIDDL;R.y&_LOW,_|FT_TO_UPP,_MIDDL;R.y&_LOW,_C~TR;TO_UPP,_R.
g|FT_BLOCK_DIAG@&_UPP,_C~TR;TO_UPP,_MIDDL;R.yL_UPP,_|FT_TO_UPP,_MIDDL;R.
yL_UPP,_C~TR;TO_LOW,_MIDDL;R.yL_UPP,_|FT_TO_LOW,_MIDDL;R.yL_UPP,_C~TR;TO_LOW,_R.
yL_UPP,_MIDDL;|FT_TO_LOW,_MIDDL;R.aUPP,_R._BLOCK_DIAG@&_LOW,_MIDDL;|FT_TO_LOW,_C~TRE
y&_LOW,_MIDDL;|FT_TO_LOW,_R.y&_UPP,_MIDDL;|FT_TO_LOW,_C~TREy&_UPP,_MIDDL;|FT_TO_LOW,_R.
y&_UPP,_|FT_TO_LOW,_C~TREg|FT_BLOCK_DIAG@&_UPP,_MIDDL;|FT_TO_UPP,_C~TREyL_UPP,_MIDDL;|FT_TO_UPP,_R.
yL_LOW,_MIDDL;|FT_TO_UPP,_C~TREyL_LOW,_MIDDL;|FT_TO_UPP,_R.yL_LOW,_|FT_TO_UPP,_C~TRE
yL_LOW,_MIDDL;|FT_TO_UPP,_MIDDL;R.yL_LOW,_C~TR;TO_LOW,_MIDDL;R.yL_LOW,_|FT_TO_LOW,_MIDDL;R.
yL_LOW,_C~TR;TO_UPP,_MIDDL;R.yL_LOW,_|FT_TO_UPP,_MIDDL;R.yL_LOW,_C~TR;TO_UPP,_R.
gR._BLOCK_DIAG@&_UPP,_C~TR;TO_UPP,_MIDDL;R.y&_UPP,_|FT_TO_UPP,_MIDDL;R.y&_UPP,_C~TR;TO_LOW,_MIDDL;R.
y&_UPP,_|FT_TO_LOW,_MIDDL;R.y&_UPP,_C~TR;TO_LOW,_R.y&_UPP,_MIDDL;|FT_TO_LOW,_MIDDL;R.
g=^R._=^LOW,_TRI=GUL+_THRE;QU+T,S_BLOCKa|FT_=^LOW,_=^R._TRI=GUL+_THRE;QU+T,S_BLOCK
aUPP,_=^|FT_=^LOW,_TRI=GUL+_THRE;QU+T,S_BLOCKa|FT_=^UPP,_=^R._TRI=GUL+_THRE;QU+T,S_BLOCK
fTRI=GUL+_@;QU+T,_BLOCKaUPP,_TRI=GUL+_@;QU+T,_BLOCKaR._TRI=GUL+_@;QU+T,_BLOCK
aLOW,_TRI=GUL+_@;QU+T,_BLOCKaV,TIC&_@;E.H_BLOCK-2yK-3yK-4yK-5yK-6yK-7aHORIZ@T&_@;E.H_BLOCK-2yOCK-3
yOCK-4yOCK-5yOCK-6yOCK-7a|FT_=^LOW,_@;E.H_BLOCKjUPP,_@;E.H_BLOCKaR._=^UPP,_@;E.H_BLOCK
kLOW,_@;E.H_BLOCKaUPP,_=^LOW,_@;E.H_BLOCKaHORIZ@T&_@;E.H_BLOCK-1358aUPP,_@;QU+T,_BLOCK
gTHRE;E.HS_BLOCKgFIV;E.HS_BLOCKgTHRE;QU+T,S_BLOCKgSEV~_E.HS_BLOCKaR._@;QU+T,_BLOCKgTHRE;E.HS_BLOCK
gFIV;E.HS_BLOCKgTHRE;QU+T,S_BLOCKgSEV~_E.HS_BLOCKa|FT_H&F_MEDIUM>HADEaR._H&F_MEDIUM>HADE
aUPP,_H&F_MEDIUM>HADEaLOW,_H&F_MEDIUM>HADEa:V,S;MEDIUM>HADE
aUPP,_H&F_BLOCK_=^LOW,_H&F_:V,S;MEDIUM>HADEl:V,S;MEDIUM>HAD;=^LOW,_H&F_BLOCK
z1FB94a|FT_H&F_:V,S;MEDIUM>HAD;=^R._H&F_BLOCKaCHECK,_BO+^FILLa:V,S;CHECK,_BO+^FILL
aHEAVY_HORIZ@T&_FILLaUPP,_|FT_TO_LOW,_R._FILLgR._TO_LOW,_|FT_FILLg=^LOW,_TRI=GUL+_H&F_BLOCK
a|FT_=^R._TRI=GUL+_H&F_BLOCKaUPP,_|FT_TRI=GUL+_MEDIUM>HADEgR._TRI=GUL+_MEDIUM>HADE
aLOW,_R._TRI=GUL+_MEDIUM>HADEg|FT_TRI=GUL+_MEDIUM>HADEaBOX_DRAW:GS_L._DIAG@&_UPP,_C~TR;TO_MIDDL;|FT
yN&_UPP,_C~TR;TO_MIDDL;R.yN&_MIDDL;|FT_TO_LOW,_C~TREyN&_MIDDL;R._TO_LOW,_C~TRE
yN&_UPP,_C~TR;TO_MIDDL;|FT_TO_LOW,_C~TREyN&_UPP,_C~TR;TO_MIDDL;R._TO_LOW,_C~TRE
yN&_MIDDL;|FT_TO_LOW,_C~TR;TO_MIDDL;R.yN&_MIDDL;|FT_TO_UPP,_C~TR;TO_MIDDL;R.
yN&_UPP,_C~TR;TO_MIDDL;|FT_=^MIDDL;R._TO_LOW,_C~TRE
yN&_UPP,_C~TR;TO_MIDDL;R._=^MIDDL;|FT_TO_LOW,_C~TRE
yN&_UPP,_C~TR;TO_MIDDL;R._TO_LOW,_C~TR;TO_MIDDL;|FT
yN&_UPP,_C~TR;TO_MIDDL;|FT_TO_LOW,_C~TR;TO_MIDDL;R.
yN&_MIDDL;|FT_TO_UPP,_C~TR;TO_MIDDL;R._TO_LOW,_C~TRE
yN&_MIDDL;R._TO_UPP,_C~TR;TO_MIDDL;|FT_TO_LOW,_C~TREyN&_DIAM@DtHORIZ@T&$V,TIC&>TROKE
a+ROWHEAD-SHAPE^PO:T,a:V,S;CHECK_M+Ka|FT_H&F_RUNN:G_M=aR._H&F_RUNN:G_M=
a:V,S;DOWNW+DS_+ROW$TIP_|FTW+DSa|FTW+DS_+ROW_=^UPP,_=^LOW,_@;E.H_BLOCK
aR.W+DS_+ROW_=^UPP,_=^LOW,_@;E.H_BLOCKaDOWNW+DS_+ROW_=^R._@;E.H_BLOCKaUPW+DS_+ROW_=^R._@;E.H_BLOCK
a|FT_H&F_FOLD,aR._H&F_FOLD,aVOIDE^GREEK_CROSSaR._OP~>QU+E^DOTaNEGATIV;DIAG@&_CROSS
sMIDDL;R._TO_LOW,_C~TREsDIAM@DaWHIT;HEAVY>&TIRE$ROUNDE^CORN,Sa|FT_THIR^WHIT;R._PO:T:G_:DEX
aMIDDL;THIR^WHIT;R._PO:T:G_:DEXaR._THIR^WHIT;R._PO:T:G_:DEXaNEGATIV;SQU+E^QUESTI@_M+KaSTICK_FIGURE
m$+MS_RAISEDn|=:G_|FTvR.nWITH_DRESSaWHIT;UP-PO:T:G_CHEVR@z1FBF0aSEGM~TE^DIGIT_Z,Oq@EqTWOrHREEqFOUR
rIVEqSIXrEV~qE.qN:EzE0001aL=GUAG;TAGzE0020aTAG>PACEeEXCLAMATI@_M+KeQUOTATI@_M+KeNUMB,>IGNeDOLL+>IGN
eP,C~T>IGNeAMP,S=DfPOSTROPHEe|FT_P+~THESISeR._P+~THESISeAST,ISKePLUS>IGNeCOMMAeHYPH~-M:USeFULL>TOP
eSOLIDUSeDIGIT_Z,Ok@EkTWOlHREEkFOURlIVEkSIXlEV~kE.kN:EeCOL@eSEMICOL@e|SS-TH=>IGNeEQU&S>IGN
eGREAT,-TH=>IGNeQUESTI@_M+KeCOMM,CI&_ATeLAT:_%!Ay_By_Cy_Dy_Ey_Fy_Gy_Hy_Iy_Jy_Ky_Ly_My_Ny_Oy_Py_Qy_R
y>y_Ty_Uy_Vy_Wy_Xy_Yy_ZfEFT>QU+;BRACKETeREV,S;SOLIDUSf.>QU+;BRACKETeCIRCUMF|X_ACC~TeLOW_L:E
eGRAV;ACC~TeLAT:>M&!AxBxCxDxExFxGxHxIxJxKxLxMxNxOxPxQxRxSxTxUxVxWxXxYxZfEFT_CURLY_BRACKETeV,TIC&_L:E
eR._CURLY_BRACKETeTILDEaC=CEL_TAGzE0100aV+IATI@>E|CTOR-17u8u9t20u1u2u3u4u5u6u7u8u9t30u1u2u3u4u5u6u7
u8u9t40u1u2u3u4u5u6u7u8u9t50u1u2u3u4u5u6u7u8u9t60u1u2u3u4u5u6u7u8u9t70u1u2u3u4u5u6u7u8u9t80u1u2u3u4
u5u6u7u8u9t90u1u2u3u4u5u6u7u8u9t100v1v2v3v4v5v6v7v8v9u10v1v2v3v4v5v6v7v8v9u20v1v2v3v4v5v6v7v8v9u30v1
v2v3v4v5v6v7v8v9u40v1v2v3v4v5v6v7v8v9u50v1v2v3v4v5v6v7v8v9u60v1v2v3v4v5v6v7v8v9u70v1v2v3v4v5v6v7v8v9
u80v1v2v3v4v5v6v7v8v9u90v1v2v3v4v5v6v7v8v9t200v1v2v3v4v5v6v7v8v9u10v1v2v3v4v5v6v7v8v9u20v1v2v3v4v5v6
v7v8v9u30v1v2v3v4v5v6v7v8v9u40v1v2v3v4v5v6v7v8v9u50v1v2v3v4v5v6"

end Conform
